import OpenLawsVpn.Gui.Actions

/-!
# The screen and the service

The screen has a row for each profile, with a button. A click on the button of the
active profile sends a Disconnect while the screen shows *Connected*; every other
click makes the profile the active one and sends a Connect. The commands wait for
the service, and the changes sent by the service and for the lines of the log wait
for the screen, which builds its rows again after each.

A run is *careful* when its clicks wait for the screen, and the changes sent for the
lines of the log are those of the tunnel (`Careful`).

* `Gui.step`: one step of the screen, the service, a client, or the channel between them;
* `Gui.Agrees`: what is to hold in all states of a run;
* `Gui.Meets`: the condition on a step;
* `Settled`: the order of the changes on their way, with the lemmas on sending and receiving one.
-/

namespace OpenLawsVpn

/-! ## The screen -/

/-- `build_profile_row`: the button of the row of a profile is sensitive. -/
def buildProfileRow (activeId : Option Text) (state : ConnectionState) (anyBusy : Bool)
    (id : Text) : Bool :=
  let isActive : Bool := activeId = some id
  let selfBusy := isActive && state.isBusy
  let sensitive := !anyBusy || (isActive &&
    match state with
    | .connected .. | .needReauth _ | .error _ => true
    | _ => false)
  if selfBusy then false else sensitive

/-- The screen, the service, and what is under way between them. -/
structure Gui where
  activeId : Option Text := none
  state : ConnectionState := .idle
  /-- The button of the row of a profile is sensitive. -/
  sensitive : Text → Bool := buildProfileRow none .idle false
  /-- The commands sent that the service has not taken. -/
  commands : List VpnCommand := []
  /-- The command that the service took last, and what is left of its actions. -/
  command : Option VpnCommand := none
  task : List ServiceAction := []
  service : Service := {}
  /-- The clients whose tunnel is up. -/
  tunnels : List ℕ := []
  /-- The events sent that the screen has not received. -/
  events : List VpnEvent := []
  /-- The first change of the command of the last click, until the screen receives
      it. No part of the program depends on it. -/
  awaited : Option ConnectionState := none

namespace Gui

/-- A click, a step of the service, or something that happens to a client. -/
inductive Step
  | click (id : Text) (outcome : ConnectOutcome)
  /-- The rows are built again, after an import. -/
  | refresh
  /-- The service takes a command. -/
  | take
  /-- The service performs an action. -/
  | act
  /-- Phase 2 fails: its last line is logged. -/
  | fail (message : Bytes)
  /-- A client logs a line. -/
  | line (message : Bytes)
  /-- The tunnel of the Phase 2 under way comes up. -/
  | up
  | down (client : ℕ)
  /-- The screen receives an event. -/
  | deliver

/-- `refresh_list`. -/
def refreshList (s : Gui) : Gui :=
  { s with sensitive := buildProfileRow s.activeId s.state s.state.isBusy }

/-- The handler of the button of a row: `path` is the path of the configuration of a
    profile. -/
def click (path : Text → Text) (id : Text) (outcome : ConnectOutcome) (s : Gui) : Gui :=
  if s.sensitive id then
    if s.activeId = some id ∧ s.state.isConnected then
      { s with
        commands := s.commands ++ [.disconnect]
        activeId := none
        awaited := some .disconnecting }
    else
      { s with
        activeId := some id
        commands := s.commands ++ [.connect (path id) outcome]
        awaited := some .connecting }
  else s

/-- The loop of the service thread. The command before is complete. -/
def take (s : Gui) : Gui :=
  match s.task, s.commands with
  | [], c :: commands => { s with commands, command := some c, task := s.service.actions c }
  | _, _ => s

/-- The service performs the next action of its command, which sends its events. -/
def act (s : Gui) : Gui :=
  match s.task with
  | [] => s
  | a :: task =>
    { s with
      task
      service := s.service.perform a
      events := s.events ++ a.outputs.flatMap Output.events }

/-- A client logs a line, for which the log callback sends events. -/
def line (message : Bytes) (s : Gui) : Gui := { s with events := s.events ++ logCallback message }

/-- Nothing is left of Phase 2 once its last line is logged. -/
def fail (message : Bytes) (s : Gui) : Gui :=
  match s.task with
  | .connectPhase2 .. :: _ => s.act.line message
  | _ => s

/-- The tunnel of the Phase 2 under way comes up, which no event reports by itself. -/
def up (s : Gui) : Gui :=
  match s.task with
  | .connectPhase2 client .. :: _ => { s with tunnels := client :: s.tunnels }
  | _ => s

/-- The tunnel of a client goes down. -/
def down (client : ℕ) (s : Gui) : Gui := { s with tunnels := s.tunnels.filter (· ≠ client) }

/-- The event loop, with `set_state`. -/
def deliver (s : Gui) : Gui :=
  match s.events with
  | [] => s
  | .logLine _ :: events => { s with events }
  | .stateChanged state :: events =>
    refreshList { s with
      state := vpnStateToUi state
      events
      awaited := if s.awaited = some (vpnStateToUi state) then none else s.awaited }

/-- A step that is not possible changes nothing. -/
def step (path : Text → Text) (s : Gui) : Step → Gui
  | .click id outcome => s.click path id outcome
  | .refresh => s.refreshList
  | .take => s.take
  | .act => s.act
  | .fail message => s.fail message
  | .line message => s.line message
  | .up => s.up
  | .down client => s.down client
  | .deliver => s.deliver

/-! ## Agreement -/

/-- A Connect is in progress. -/
def Connecting (s : Gui) : Prop := s.task ≠ [] ∧ s.command.any VpnCommand.isConnect

/-- A Connect was sent and is not finished. -/
def Unfinished (s : Gui) : Prop := s.commands.any VpnCommand.isConnect ∨ s.Connecting

/-- A Connect was sent and is not finished, or a tunnel is up. -/
def Live (s : Gui) : Prop := s.Unfinished ∨ s.tunnels ≠ []

/-- The Connect in progress has done something, and thus made its client. -/
def Made (s : Gui) : Prop := s.Connecting ∧ ∀ c ∈ s.command, s.task ≠ s.service.actions c

instance (s : Gui) : Decidable s.Connecting := inferInstanceAs (Decidable (_ ∧ _))
instance (s : Gui) : Decidable s.Unfinished := inferInstanceAs (Decidable (_ ∨ _))
instance (s : Gui) : Decidable s.Live := inferInstanceAs (Decidable (_ ∨ _))
instance (s : Gui) : Decidable s.Made := inferInstanceAs (Decidable (_ ∧ _))

/-- The step sends a Connect. -/
def SendsConnect (s : Gui) : Step → Prop
  | .click id _ => s.sensitive id ∧ ¬(s.activeId = some id ∧ s.state.isConnected)
  | _ => False

/-- If the screen shows that the active profile is connected, the client stored was
    made from its configuration. -/
def Shows (path : Text → Text) (s : Gui) : Prop :=
  ∀ id, s.activeId = some id → s.state.isConnected → s.service.Stores (path id)

/-- In a run, the screen shows what the service has, and no Connect is sent during
    another or while a tunnel is up. -/
def Agrees (path : Text → Text) : Gui → List Step → Prop
  | s, [] => s.Shows path
  | s, a :: steps =>
    s.Shows path ∧ (s.SendsConnect a → ¬s.Live) ∧ Agrees path (s.step path a) steps

/-- A click is not made before the first change of the last one is shown, nor on
    another profile than the one shown as connected. A change to a state at rest comes
    when the tunnel is down, and for a line when no Connect is unfinished; a line is
    taken for a connection during a Connect that has its client, or with a tunnel. -/
def Meets (s : Gui) : Step → Prop
  | .click id _ => s.sensitive id → s.awaited = none ∧ (s.state.isConnected → s.activeId = some id)
  | .act => ∀ a ∈ s.task.head?, ∀ x ∈ a.change?, x.atRest → s.tunnels = []
  | .fail message => ∀ x ∈ lineChange? message, x.atRest → s.tunnels = []
  | .line message => ∀ x ∈ lineChange? message,
    if x.atRest then ¬s.Unfinished ∧ s.tunnels = [] else s.Made ∨ s.tunnels ≠ []
  | _ => True

/-- Each step of a run meets the condition. -/
def Careful (path : Text → Text) : Gui → List Step → Prop
  | _, [] => True
  | s, a :: steps => s.Meets a ∧ Careful path (s.step path a) steps

variable {path : Text → Text} {s : Gui}

/-! ## Changes on their way -/

/-- The changes that the screen has not received. -/
def changes (s : Gui) : List ConnectionState := s.events.filterMap VpnEvent.change?

/-- The state shown and the changes on their way, from the first change of the last
    command on. -/
def recent (s : Gui) : List ConnectionState :=
  match s.awaited with
  | none => s.state :: s.changes
  | some x => s.changes.dropWhile (· ≠ x)

/-- Once at rest, the states stay at rest; and they are not at rest while a Connect
    or a tunnel is live. -/
structure Settled (live : Prop) (l : List ConnectionState) : Prop where
  rest : l.Pairwise fun x y => x.atRest → y.atRest
  live : live → ∀ x ∈ l, x.atRest = false
  once : .disconnecting ∉ l.tail

theorem settled_nil (live : Prop) : Settled live [] where
  rest := List.Pairwise.nil
  live _ _ hx := absurd hx List.not_mem_nil
  once := List.not_mem_nil

/-- What is settled stays so when the screen receives a change. -/
theorem Settled.tail {live : Prop} {l : List ConnectionState} (h : Settled live l) :
    Settled live l.tail where
  rest := h.rest.tail
  live hlive x hx := h.live hlive x (List.mem_of_mem_tail hx)
  once hmem := h.once (List.mem_of_mem_tail hmem)

/-- Changes stay settled when nothing more becomes live. -/
theorem Settled.mono {live live' : Prop} {l : List ConnectionState} (h : Settled live l)
    (hlive : live' → live) : Settled live' l :=
  ⟨h.rest, fun hl => h.live (hlive hl), h.once⟩

/-- A change at rest comes when nothing is live, any other one after no change at
    rest. -/
theorem Settled.append {live live' : Prop} {l : List ConnectionState} {x : ConnectionState}
    (h : Settled live l) (hlive : live' → live) (hrest : x.atRest → ¬live')
    (hbusy : x.atRest = false → ∀ y ∈ l, y.atRest = false)
    (honce : x = .disconnecting → l = []) : Settled live' (l ++ [x]) where
  rest := by
    refine List.pairwise_append.2 ⟨h.rest, List.pairwise_singleton _ _, fun y hy z hz hyrest => ?_⟩
    obtain rfl := List.mem_singleton.1 hz
    by_contra hz
    rw [hbusy (Bool.eq_false_iff.2 hz) y hy] at hyrest
    cases hyrest
  live hl y hy := by
    rcases List.mem_append.1 hy with hy | hy
    · exact h.live (hlive hl) y hy
    · obtain rfl := List.mem_singleton.1 hy
      exact Bool.eq_false_iff.2 fun hrest' => hrest hrest' hl
  once hmem := by
    rcases l with _ | ⟨y, l⟩
    · cases hmem
    · rcases List.mem_append.1 hmem with hmem | hmem
      · exact h.once hmem
      · exact absurd (honce (List.mem_singleton.1 hmem).symm) (List.cons_ne_nil _ _)

/-- Until the change that is awaited is sent, there are no recent changes. -/
theorem recent_eq_nil {x : ConnectionState} (hawaited : s.awaited = some x) (hx : x ∉ s.changes) :
    s.recent = [] := by
  rw [recent, hawaited]
  dsimp only
  rw [List.dropWhile_eq_nil_iff]
  intro y hy
  exact decide_eq_true fun heq => hx (heq ▸ hy)

theorem settled_of_awaited {live : Prop} {x : ConnectionState} (hawaited : s.awaited = some x)
    (hx : x ∉ s.changes) : Settled live s.recent := by
  rw [recent_eq_nil hawaited hx]
  exact settled_nil live

/-- The changes of a state in which more events were sent. -/
theorem recent_of_sends {s' : Gui} {x : ConnectionState} (hstate : s'.state = s.state)
    (hawaited : s'.awaited = s.awaited) (hchanges : s'.changes = s.changes ++ [x]) :
    s'.recent = [] ∨ s'.recent = s.recent ++ [x] ∧ (s.recent = [] → s.awaited = some x) := by
  rw [recent, recent, hawaited, hstate, hchanges]
  cases hs : s.awaited with
  | none => exact .inr ⟨rfl, fun h => absurd h (List.cons_ne_nil _ _)⟩
  | some y =>
    dsimp only
    rw [List.dropWhile_append]
    cases hrecent : s.changes.dropWhile (· ≠ y) with
    | nil =>
      by_cases hx : x = y
      · exact .inr ⟨by simp [hx], fun _ => by rw [hx]⟩
      · exact .inl (by simp [hx])
    | cons z l => exact .inr ⟨by simp, fun h => absurd h (List.cons_ne_nil _ _)⟩

end Gui

end OpenLawsVpn
