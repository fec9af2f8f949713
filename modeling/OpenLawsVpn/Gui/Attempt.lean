import OpenLawsVpn.Client
import OpenLawsVpn.Gui.Service

/-!
# The screen during an attempt

The screen shows the state of the last change that the service sent. While it is
a busy one, no other Connect can be started.

Two threads send changes: the task of a Connect, and the core client of Phase 1,
whose lines of log are read by the log callback. From the time the task has sent
*Connecting* until it reports an error (a `Window`), the screen is busy all along
exactly if no line of the core client has one of the phrases of the callback
(`Window.busy_iff`). The core client that stops after the challenge has a line
`DISCONNECTED`, so a login is not busy (`idle_of_disconnected`).

* `Window`: the interleaving of the task, the core client and its lines, with its bounds;
* `isBusy_of_stateChange`: no line changes the screen to a busy state;
* `screen_iff_of_change`: what holds at all times is what every change has;
* `Window.busy_iff`: the criterion.
-/

namespace OpenLawsVpn

/-- The state of the screen. -/
inductive ConnectionState
  | idle
  | connecting
  | waitingSaml
  | connected (serverIp assignedIp : Text)
  | disconnecting
  | needReauth (reason : Text)
  | error (message : Text)
  deriving DecidableEq, Repr

/-- `ConnectionState::is_busy`. -/
def ConnectionState.isBusy : ConnectionState → Bool
  | .connecting | .waitingSaml | .disconnecting => true
  | _ => false

/-- A Connect is under way, which is a busy state. -/
def ConnectionState.Attempting (ui : ConnectionState) : Prop :=
  ui.isBusy ∧ (ui = .connecting ∨ ui = .waitingSaml)

/-- `vpn_state_to_ui`: the state of the screen for a state of the service. -/
def vpnStateToUi : VpnState → ConnectionState
  | .idle => .idle
  | .connecting => .connecting
  | .waitingSaml _ => .waitingSaml
  | .connected serverIp assignedIp => .connected serverIp assignedIp
  | .disconnecting => .disconnecting
  | .needReauth => .needReauth []
  | .error message => .error message

/-- The state of the screen after an event. -/
def setState (ui : ConnectionState) : VpnEvent → ConnectionState
  | .stateChanged state => vpnStateToUi state
  | .logLine _ => ui

/-- The state of the screen after the events. -/
def screen (ui : ConnectionState) (events : List VpnEvent) : ConnectionState :=
  events.foldl setState ui

/-! ## Two threads -/

/-- A step of the task, or of the core client of Phase 1. -/
inductive Message
  | task (a : ServiceAction)
  | core (now : Stamp) (input : CoreInput)
  /-- A line of the core client about setting an interface up. -/
  | tun (line : Bytes)

/-- The action of the task that a step performs. -/
def Message.task? : Message → Option ServiceAction
  | .task a => some a
  | .core .. | .tun _ => none

/-- What a step sends: an event, or a line for the log callback. -/
inductive Output
  | event (e : VpnEvent)
  | line (l : Bytes)

/-- The events that the GUI is sent. -/
def Output.events : Output → List VpnEvent
  | .event e => [e]
  | .line l => logCallback l

/-- The line that the log callback is handed. -/
def Output.line? : Output → Option Bytes
  | .event _ => none
  | .line l => some l

/-- What an action of the task sends. -/
def ServiceAction.outputs : ServiceAction → List Output
  | .emit e => [.event e]
  | _ => []

/-- What an action of the core client sends. -/
def CoreAction.outputs : CoreAction → List Output
  | .log l => [.line l]
  | _ => []

/-- What the steps send, with the core client `core`. -/
def outputs (settings : Settings) : CoreClient → List Message → List Output
  | _, [] => []
  | core, .task a :: messages => a.outputs ++ outputs settings core messages
  | core, .core now input :: messages =>
    let (core, actions) := core.handle settings now input
    actions.flatMap CoreAction.outputs ++ outputs settings core messages
  | core, .tun line :: messages => .line line :: outputs settings core messages

/-- The action reports an error. -/
def ServiceAction.isError : ServiceAction → Bool
  | .emit (.stateChanged (.error _)) => true
  | _ => false

/-- The steps of a Connect and of the core client, in any order, from the time
    *Connecting* is sent until an error is. -/
structure Window (id : ℕ) (o : ConnectOutcome) where
  messages : List Message
  starts : messages.head? = some (.task (.emit (.stateChanged .connecting)))
  tasks : messages.filterMap Message.task? = (Service.attempt id o).takeWhile (!·.isError)

namespace Window

variable {id : ℕ} {o : ConnectOutcome}

/-- The events sent in the window. -/
def events (settings : Settings) (w : Window id o) : List VpnEvent :=
  (outputs settings {} w.messages).flatMap Output.events

/-- The lines of the core client in the window. -/
def lines (settings : Settings) (w : Window id o) : List Bytes :=
  (outputs settings {} w.messages).filterMap Output.line?

end Window

/-! ## Changes -/

/-- A property of the screen is kept all along exactly if every change is to a state
    that has it. -/
theorem screen_iff {P : ConnectionState → Prop} {ui : ConnectionState} {events : List VpnEvent} :
    (∀ l, l <+: events → P (screen ui l)) ↔
      P ui ∧ ∀ state, .stateChanged state ∈ events → P (vpnStateToUi state) := by
  induction events generalizing ui with
  | nil =>
    simp only [List.prefix_nil, forall_eq, List.not_mem_nil, false_implies, implies_true, and_true]
    rfl
  | cons e events ih =>
    rw [Service.forall_prefix_cons_iff]
    refine and_congr_right fun hui => ?_
    -- The rest of the events starts from the screen after the first one.
    rw [show (∀ l, l <+: events → P (screen ui (e :: l))) ↔
      ∀ l, l <+: events → P (screen (setState ui e) l) from Iff.rfl, ih]
    cases e with
    | stateChanged state => simp [setState]
    | logLine line => simp [setState, show P ui from hui]

/-- A property holds from a first change on exactly if every change is to a state that has
    it. -/
theorem screen_iff_of_change {P : ConnectionState → Prop} (ui : ConnectionState) {state : VpnState}
    {events : List VpnEvent} :
    (∀ l, l <+: .stateChanged state :: events → l ≠ [] → P (screen ui l)) ↔
      ∀ state', .stateChanged state' ∈ VpnEvent.stateChanged state :: events →
        P (vpnStateToUi state') := by
  rw [Service.forall_prefix_cons_iff]
  have hcons : (∀ l, l <+: events → .stateChanged state :: l ≠ [] →
      P (screen ui (.stateChanged state :: l))) ↔
        ∀ l, l <+: events → P (screen (vpnStateToUi state) l) :=
    ⟨fun h l hl => h l hl (List.cons_ne_nil _ _), fun h l hl _ => h l hl⟩
  rw [hcons, screen_iff]
  simp

/-- No change by a line is to a busy state. -/
theorem isBusy_of_stateChange {msg : Text} {state : VpnState} (h : stateChange msg = some state) :
    (vpnStateToUi state).isBusy = false := by
  unfold stateChange at h
  dsimp only at h
  split_ifs at h <;> cases h <;> rfl

/-- A change that a line causes never shows a Connect under way. -/
theorem not_attempting_of_stateChange {msg : Text} {state : VpnState}
    (h : stateChange msg = some state) : ¬(vpnStateToUi state).Attempting := fun hattempting =>
  absurd hattempting.1 (Bool.eq_false_iff.1 (isBusy_of_stateChange h))

theorem attempting_connecting : (vpnStateToUi .connecting).Attempting := ⟨rfl, .inl rfl⟩

theorem attempting_waitingSaml (samlUrl : Text) : (vpnStateToUi (.waitingSaml samlUrl)).Attempting :=
  ⟨rfl, .inr rfl⟩

/-- A Connect shows that it is under way, or reports an error. -/
theorem attempting_or_isError_of_emit {id : ℕ} {o : ConnectOutcome} {state : VpnState}
    (h : .emit (.stateChanged state) ∈ Service.attempt id o) :
    (vpnStateToUi state).Attempting ∨ (ServiceAction.emit (.stateChanged state)).isError := by
  rcases Service.afterPhase1_cases id o with
    ⟨e, hafter⟩ | ⟨url, e, hafter⟩ | ⟨url, a, hafter, rfl | ⟨i, t, r, rfl⟩⟩
  all_goals rw [Service.attempt, hafter] at h
  · obtain rfl | rfl : state = .connecting ∨ state = .error e := by simpa using h
    · exact .inl attempting_connecting
    · exact .inr rfl
  · obtain rfl | rfl | rfl : state = .connecting ∨ state = .waitingSaml url ∨ state = .error e := by
      simpa using h
    · exact .inl attempting_connecting
    · exact .inl (attempting_waitingSaml url)
    · exact .inr rfl
  -- With a token, the Connect goes on to Phase 2, or panics before.
  all_goals
    obtain rfl | rfl | rfl : state = .connecting ∨ state = .waitingSaml url ∨ state = .connecting := by
      simpa using h
    · exact .inl attempting_connecting
    · exact .inl (attempting_waitingSaml url)
    · exact .inl attempting_connecting

namespace Window

variable {settings : Settings} {id : ℕ} {o : ConnectOutcome}

/-- The task shows that it is under way in the window. -/
theorem attempting_of_task (w : Window id o) {state : VpnState}
    (h : .task (.emit (.stateChanged state)) ∈ w.messages) : (vpnStateToUi state).Attempting := by
  have htask : .emit (.stateChanged state) ∈ (Service.attempt id o).takeWhile (!·.isError) := by
    rw [← w.tasks]
    exact List.mem_filterMap.2 ⟨_, h, rfl⟩
  have hnot := List.mem_takeWhile_imp htask
  refine (attempting_or_isError_of_emit ((List.takeWhile_prefix _).subset htask)).resolve_right ?_
  simpa using hnot

end Window

/-- An event is sent by the task. -/
theorem task_of_mem_outputs {settings : Settings} {core : CoreClient} {messages : List Message}
    {e : VpnEvent} (h : .event e ∈ outputs settings core messages) :
    .task (.emit e) ∈ messages := by
  -- Neither the core nor the tunnel sends one.
  induction messages generalizing core with
  | nil => cases h
  | cons m messages ih =>
    cases m with
    | task a =>
      rcases List.mem_append.1 h with h | h
      · cases a with
        | emit e' =>
          obtain rfl : e = e' := by simpa [ServiceAction.outputs] using h
          exact List.mem_cons_self
        | _ => cases h
      · exact List.mem_cons_of_mem _ (ih h)
    | core now input =>
      rcases List.mem_append.1 h with h | h
      · obtain ⟨a, -, ha⟩ := List.mem_flatMap.1 h
        cases a <;> simp [CoreAction.outputs] at ha
      · exact List.mem_cons_of_mem _ (ih h)
    | tun line =>
      rcases List.mem_cons.1 h with h | h
      · cases h
      · exact List.mem_cons_of_mem _ (ih h)

/-- The log callback sends exactly the change that the text of the line causes. -/
theorem stateChanged_mem_logCallback_iff {line : Bytes} {state : VpnState} :
    .stateChanged state ∈ logCallback line ↔ stateChange (toStringLossy (cStr line)) = some state := by
  simp [logCallback]

namespace Window

variable {settings : Settings} {id : ℕ} {o : ConnectOutcome}

/-- A change is sent by the task, or for a line. -/
theorem stateChanged_mem_events_iff (w : Window id o) {state : VpnState} :
    .stateChanged state ∈ w.events settings ↔
      .event (.stateChanged state) ∈ outputs settings {} w.messages ∨
        ∃ line ∈ w.lines settings, stateChange (toStringLossy (cStr line)) = some state := by
  simp only [events, lines, List.mem_flatMap, List.mem_filterMap]
  constructor
  · rintro ⟨output, houtput, hstate⟩
    cases output with
    | event e =>
      obtain rfl : VpnEvent.stateChanged state = e := by simpa [Output.events] using hstate
      exact .inl houtput
    | line l => exact .inr ⟨l, ⟨_, houtput, rfl⟩, stateChanged_mem_logCallback_iff.1 hstate⟩
  · rintro (h | ⟨line, ⟨output, houtput, hline⟩, hstate⟩)
    · exact ⟨_, h, List.mem_singleton.2 rfl⟩
    · cases output with
      | event e => cases hline
      | line l =>
        obtain rfl := Option.some.inj hline
        exact ⟨_, houtput, stateChanged_mem_logCallback_iff.2 hstate⟩

/-- The screen shows a Connect under way all along, and is thus busy, exactly if no
    line of the core client has one of the phrases. -/
theorem busy_iff (w : Window id o) (ui : ConnectionState) :
    (∀ l, l <+: w.events settings → l ≠ [] → (screen ui l).Attempting) ↔
      ∀ line ∈ w.lines settings, ¬Says allPhrases (lowered (cStr line)) := by
  obtain ⟨messages, hmessages⟩ : ∃ messages, w.messages =
      .task (.emit (.stateChanged .connecting)) :: messages := List.head?_eq_some_iff.1 w.starts
  have hevents : w.events settings =
      .stateChanged .connecting :: (outputs settings {} messages).flatMap Output.events := by
    rw [events, hmessages]
    rfl
  have hchanges : (∀ l, l <+: w.events settings → l ≠ [] → (screen ui l).Attempting) ↔
      ∀ state, .stateChanged state ∈ w.events settings → (vpnStateToUi state).Attempting := by
    rw [hevents, screen_iff_of_change]
  rw [hchanges]
  constructor
  · -- A line with a phrase would change the screen.
    intro h line hline
    rw [← stateChange_eq_none_iff, Option.eq_none_iff_forall_ne_some]
    exact fun state hstate => not_attempting_of_stateChange hstate
      (h state (w.stateChanged_mem_events_iff.2 (.inr ⟨line, hline, hstate⟩)))
  · -- Without one, all changes are the task's.
    intro h state hstate
    rcases w.stateChanged_mem_events_iff.1 hstate with htask | ⟨line, hline, hstate⟩
    · exact w.attempting_of_task (task_of_mem_outputs htask)
    · rw [stateChange_eq_none_iff.2 (h line hline)] at hstate
      cases hstate

/-! ## A login -/

/-- The results of the steps of a login. -/
def loginOutcome : ConnectOutcome where
  phase1 := ⟨some ⟨lit "https://idp", by decide⟩, some ⟨lit "sid", by decide⟩, some .empty⟩
  capture := .ok "token".toList

/-- The core client, stopped after the challenge, is disconnected while the page of
    the login is open. -/
def login : Window 0 loginOutcome where
  messages :=
    [.task (.emit (.stateChanged .connecting)), .task (.connectPhase1 0),
      .core ⟨2024, 1, 1, 0, 0, 0⟩
        (.event ⟨lit "DYNAMIC_CHALLENGE", lit "CRV1:R:sid:dQ==:https://idp"⟩),
      .task (.openBrowser "https://idp".toList),
      .task (.emit (.stateChanged (.waitingSaml "https://idp".toList))),
      .core ⟨2024, 1, 1, 0, 0, 1⟩ (.event ⟨lit "DISCONNECTED", []⟩),
      .task (.emit (.stateChanged .connecting)),
      .task (.connectPhase2 0 "sid".toList "token".toList [])]
  starts := rfl
  tasks := by decide

/-- The screen is idle while the login waits. -/
theorem idle_of_disconnected :
    ¬∀ l, l <+: login.events { clock := fun _ => ⟨2024, 1, 1, 0, 0, 0⟩ } → l ≠ [] →
      (screen .idle l).Attempting := by
  intro h
  set events := login.events { clock := fun _ => ⟨2024, 1, 1, 0, 0, 0⟩ } with hevents
  have hidle : screen .idle (events.take 5) = .idle := by
    rw [hevents]
    decide +kernel
  have hbusy := h (events.take 5) (List.take_prefix _ _) (by rw [hevents]; decide)
  rw [hidle] at hbusy
  cases hbusy.1

end Window

end OpenLawsVpn
