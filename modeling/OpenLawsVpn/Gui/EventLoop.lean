import Mathlib.Data.List.DropRight
import OpenLawsVpn.Gui.Screen

/-!
# The event loop of the GUI

The events of the service and of the log callback wait in a channel for the event loop,
which hands each one to the screen and the tray, or to the page of the log. The page shows
the last lines since it was cleared (`LogView`).

In every run, the events are received in the order in which they were sent, each once; the
page has the last lines received, the screen shows the last change received, and the tray
agrees with the screen (`App.run_shows`).

* `popFront_eq_rtake`: the loop that drops lines leaves the last ones;
* `App.events_step`, `App.lines_step`, `App.state_step`: one step keeps each of the relations;
* `App.events_run`, `App.lines_run`, `App.state_run`, `App.tray_run`: so does a run;
* `App.run_shows`: all of them together, from the start of the program.
-/

namespace OpenLawsVpn

/-! ## The page of the log -/

/-- The loop that pops elements from the front while there are more than `n`. -/
def popFront {α : Type*} (n : ℕ) : List α → List α
  | [] => []
  | a :: l => if (a :: l).length > n then popFront n l else a :: l

/-- The last `n` elements are left. -/
theorem popFront_eq_rtake {α : Type*} (n : ℕ) (l : List α) : popFront n l = l.rtake n := by
  induction l with
  | nil => rw [popFront, List.rtake_nil]
  | cons a l ih =>
    rw [popFront, List.rtake]
    split_ifs with h
    · have hdrop : (a :: l).length - n = l.length - n + 1 := by
        rw [List.length_cons] at h ⊢
        omega
      rw [ih, List.rtake, hdrop, List.drop_succ_cons]
    · rw [Nat.sub_eq_zero_of_le (Nat.le_of_not_lt h), List.drop_zero]

theorem length_rtake_le {α : Type*} (n : ℕ) (l : List α) : (l.rtake n).length ≤ n := by
  rw [List.rtake, List.length_drop]
  omega

/-- Taking the last elements at every step is taking them once. -/
theorem rtake_rtake_append {α : Type*} (n : ℕ) (l : List α) (a : α) :
    (l.rtake n ++ [a]).rtake n = (l ++ [a]).rtake n := by
  cases n with
  | zero => rw [List.rtake_zero, List.rtake_zero]
  | succ n =>
    have hdrop : l.length - (n + 1) + (l.length - (l.length - (n + 1)) - n) = l.length - n := by
      omega
    rw [List.rtake_concat_succ, List.rtake_concat_succ, List.rtake, List.rtake, List.rtake,
      List.length_drop, List.drop_drop, hdrop]

/-- `MAX_LINES`. -/
def maxLines : ℕ := 200

/-- The lines and the text shown. -/
structure LogView where
  lines : List Text := []
  buffer : Text := []
  length_le : lines.length ≤ maxLines := by decide
  buffer_eq : buffer = List.intercalate ['\n'] lines := by rfl

namespace LogView

/-- `LogView::append_line`: the line is added, and lines from the front are dropped beyond the
    limit. -/
def appendLine (line : Text) (v : LogView) : LogView where
  lines := popFront maxLines (v.lines ++ [line])
  buffer := List.intercalate ['\n'] (popFront maxLines (v.lines ++ [line]))
  length_le := popFront_eq_rtake maxLines _ ▸ length_rtake_le maxLines _
  buffer_eq := rfl

/-- The handler of the Clear button. -/
def clear (_ : LogView) : LogView where
  lines := []
  buffer := []

/-- What is shown after another line, of the lines since the last clearing. -/
theorem lines_appendLine {v : LogView} {all : List Text} (h : v.lines = all.rtake maxLines)
    (line : Text) : (v.appendLine line).lines = (all ++ [line]).rtake maxLines := by
  change popFront maxLines (v.lines ++ [line]) = _
  rw [popFront_eq_rtake, h, rtake_rtake_append]

end LogView

/-! ## The tray -/

/-- The state of the tray icon. -/
structure TrayState where
  connected : Bool := false

namespace TrayState

/-- The status of the icon, as its host asks for it. -/
def status (s : TrayState) : Text := if s.connected then "Active".toList else "Passive".toList

end TrayState

/-! ## The loop -/

/-- The screen with its service, the page of the log, and the tray. -/
structure App where
  gui : Gui := {}
  log : LogView := {}
  tray : TrayState := {}

namespace Gui

/-- The events that a step sends. -/
def sends (s : Gui) : Step → List VpnEvent
  | .act => s.task.head?.toList.flatMap fun a => a.outputs.flatMap Output.events
  | .fail message =>
    match s.task with
    | .connectPhase2 .. :: _ => logCallback message
    | _ => []
  | .line message => logCallback message
  | _ => []

/-- The event that a step receives. -/
def receives (s : Gui) : Step → Option VpnEvent
  | .deliver => s.events.head?
  | _ => none

variable {path : Text → Text}

/-- Phase 2 fails only while it is called. -/
theorem fail_of_not {s : Gui}
    (hnot : ∀ client stateId token remoteIp task,
      s.task = .connectPhase2 client stateId token remoteIp :: task → False) (message : Bytes) :
    s.fail message = s := by
  rw [fail]
  split
  · exact absurd ‹_› (hnot _ _ _ _ _)
  · rfl

/-- The events wait in the order in which they are sent. -/
theorem events_step (s : Gui) (a : Step) :
    s.events ++ s.sends a = (s.receives a).toList ++ (s.step path a).events := by
  -- Only the actions of the task and the lines send events, and only a delivery takes one.
  cases a with
  | click id outcome =>
    change s.events ++ [] = (s.click path id outcome).events
    rw [click, List.append_nil]
    split_ifs <;> rfl
  | take =>
    change s.events ++ [] = s.take.events
    rw [take, List.append_nil]
    split <;> rfl
  | act =>
    change _ = s.act.events
    rw [act, sends]
    cases s.task with
    | nil => exact List.append_nil _
    | cons a task => rw [List.head?_cons, Option.toList_some, List.flatMap_singleton]
  | fail message =>
    change _ = (s.fail message).events
    rw [sends]
    split
    · rename_i client stateId token remoteIp task htask
      rw [fail, line, act, htask]
      exact congrArg (· ++ _) (List.append_nil _).symm
    · rename_i hnot
      rw [fail_of_not hnot, List.append_nil]
  | up =>
    change s.events ++ [] = s.up.events
    rw [up, List.append_nil]
    split <;> rfl
  | deliver =>
    change s.events ++ [] = s.events.head?.toList ++ s.deliver.events
    rw [deliver, List.append_nil]
    split <;> rename_i hevents <;> rw [hevents] <;> rfl
  | refresh | down => exact List.append_nil _
  | line => rfl

/-- The screen shows the change received last. -/
theorem state_step (s : Gui) (a : Step) :
    (s.step path a).state = ((s.receives a).bind VpnEvent.change?).getD s.state := by
  cases a with
  | click id outcome =>
    change (s.click path id outcome).state = s.state
    rw [click]
    split_ifs <;> rfl
  | take =>
    change s.take.state = s.state
    rw [take]
    split <;> rfl
  | act =>
    change s.act.state = s.state
    rw [act]
    split <;> rfl
  | fail message =>
    change (s.fail message).state = s.state
    rw [fail]
    split
    · rw [line, act]
      split <;> rfl
    · rfl
  | up =>
    change s.up.state = s.state
    rw [up]
    split <;> rfl
  | deliver =>
    change s.deliver.state = (s.events.head?.bind VpnEvent.change?).getD s.state
    rw [deliver]
    split <;> rename_i hevents <;> rw [hevents] <;> rfl
  | refresh | down | line => rfl

end Gui

namespace App

/-- A step of the screen or the service, or a click on Clear. -/
inductive Step
  | gui (a : Gui.Step)
  | clear

/-- The step of the screen or the service. -/
def Step.gui? : Step → Option Gui.Step
  | .gui a => some a
  | .clear => none

/-- What the event loop does with an event, besides `set_state`. -/
def handle (event : VpnEvent) (s : App) : App :=
  match event with
  | .stateChanged state =>
    { s with tray := { connected := match state with
        | .connected .. => true
        | _ => false } }
  | .logLine line => { s with log := s.log.appendLine line }

/-- A step, with what the event loop does when it receives an event: `set_state`, the tray, the
    page. -/
def step (path : Text → Text) (s : App) : Step → App
  | .gui a =>
    let s' := match s.gui.receives a with
      | some event => s.handle event
      | none => s
    { s' with gui := s.gui.step path a }
  | .clear => { s with log := s.log.clear }

/-- What is observed of a run. -/
inductive Observed
  | sent (event : VpnEvent)
  | received (event : VpnEvent)
  | cleared

/-- The event, if it is sent. -/
def Observed.sent? : Observed → Option VpnEvent
  | .sent event => some event
  | _ => none

/-- The event, if it is received. -/
def Observed.received? : Observed → Option VpnEvent
  | .received event => some event
  | _ => none

/-- What is observed of a step. An event received is taken from the channel before others are
    sent. -/
def observes (s : App) : Step → List Observed
  | .gui a => (s.gui.receives a).toList.map .received ++ (s.gui.sends a).map .sent
  | .clear => [.cleared]

/-- What is observed of a run, step by step. -/
def observe (path : Text → Text) : App → List Step → List Observed
  | _, [] => []
  | s, a :: steps => s.observes a ++ observe path (s.step path a) steps

/-- The lines received since the page was cleared, after the lines `lines`. -/
def page (lines : List Text) (seen : List Observed) : List Text :=
  seen.foldl (fun lines o =>
    match o with
    | .received (.logLine line) => lines ++ [line]
    | .cleared => []
    | _ => lines) lines

/-- The steps, one after the other. -/
def run (path : Text → Text) (steps : List Step) (s : App) : App := steps.foldl (step path) s

variable {path : Text → Text} {s : App}

theorem gui_step (a : Gui.Step) : (s.step path (.gui a)).gui = s.gui.step path a := rfl

/-- The page and the tray only observe the rest. -/
theorem gui_run (path : Text → Text) (steps : List Step) (s : App) :
    (run path steps s).gui = (steps.filterMap Step.gui?).foldl (Gui.step path) s.gui := by
  induction steps generalizing s with
  | nil => rfl
  | cons a steps ih => cases a <;> exact ih _

/-- What is observed as sent is what the screen and the service send. -/
theorem filterMap_sent?_observes (a : Step) :
    (s.observes a).filterMap Observed.sent? = (a.gui?.map s.gui.sends).getD [] := by
  cases a with
  | gui a =>
    rw [observes, List.filterMap_append, List.filterMap_map, List.filterMap_map]
    have hreceived : Observed.sent? ∘ Observed.received = fun _ => none := rfl
    have hsent : Observed.sent? ∘ Observed.sent = some := rfl
    rw [hreceived, hsent, List.filterMap_none, List.filterMap_some]
    rfl
  | clear => rfl

/-- What is observed as received is what the event loop receives. -/
theorem filterMap_received?_observes (a : Step) :
    (s.observes a).filterMap Observed.received? = (a.gui?.bind s.gui.receives).toList := by
  cases a with
  | gui a =>
    rw [observes, List.filterMap_append, List.filterMap_map, List.filterMap_map]
    have hreceived : Observed.received? ∘ Observed.received = some := rfl
    have hsent : Observed.received? ∘ Observed.sent = fun _ => none := rfl
    rw [hreceived, hsent, List.filterMap_none, List.filterMap_some, List.append_nil]
    rfl
  | clear => rfl

/-- An event that is only sent is not on the page. -/
theorem page_sent (lines : List Text) (events : List VpnEvent) :
    page lines (events.map .sent) = lines := by
  induction events with
  | nil => rfl
  | cons event events ih => exact ih

theorem page_append (lines : List Text) (seen seen' : List Observed) :
    page lines (seen ++ seen') = page (page lines seen) seen' :=
  List.foldl_append

/-! ### Steps -/

/-- In a step, nothing is lost between the sender and the event loop, and nothing overtakes. -/
theorem events_step (path : Text → Text) (s : App) (a : Step) :
    s.gui.events ++ (s.observes a).filterMap Observed.sent? =
      (s.observes a).filterMap Observed.received? ++ (s.step path a).gui.events := by
  rw [filterMap_sent?_observes, filterMap_received?_observes]
  cases a with
  | gui a => exact s.gui.events_step a
  | clear => exact List.append_nil _

/-- The screen changes by the event received, if that is a change of the state. -/
theorem state_step (path : Text → Text) (s : App) (a : Step) :
    (s.step path a).gui.state =
      (((s.observes a).filterMap Observed.received?).filterMap VpnEvent.change?).getLastD
        s.gui.state := by
  rw [filterMap_received?_observes]
  cases a with
  | gui a =>
    rw [gui_step, Gui.state_step]
    change _ = ((s.gui.receives a).toList.filterMap VpnEvent.change?).getLastD s.gui.state
    cases s.gui.receives a with
    | none => rfl
    | some event => cases event <;> rfl
  | clear => rfl

/-- The page keeps the last lines of those received. -/
theorem lines_step (path : Text → Text) (a : Step) {lines : List Text}
    (h : s.log.lines = lines.rtake maxLines) :
    (s.step path a).log.lines = (page lines (s.observes a)).rtake maxLines := by
  cases a with
  | gui a =>
    rw [observes, page_append, page_sent, step]
    cases s.gui.receives a with
    | none => exact h
    | some event =>
      cases event with
      | stateChanged state => exact h
      | logLine line => exact LogView.lines_appendLine h line
  | clear => exact (List.rtake_nil _).symm

/-- The tray shows whether the screen shows a connection. -/
theorem tray_step (path : Text → Text) (a : Step)
    (h : s.tray.connected = s.gui.state.isConnected) :
    (s.step path a).tray.connected = (s.step path a).gui.state.isConnected := by
  cases a with
  | gui a =>
    rw [gui_step, Gui.state_step, step]
    cases s.gui.receives a with
    | none => exact h
    | some event =>
      cases event with
      | stateChanged state => cases state <;> rfl
      | logLine line => exact h
  | clear => exact h

/-! ### Runs -/

theorem getLastD_append {α : Type*} (l l' : List α) (a : α) :
    (l ++ l').getLastD a = l'.getLastD (l.getLastD a) := by
  cases l' with
  | nil => rw [List.append_nil]; rfl
  | cons b l' => simp [List.getLastD_eq_getLast?]

/-- `events_step` over a run. -/
theorem events_run (path : Text → Text) (steps : List Step) (s : App) :
    s.gui.events ++ (observe path s steps).filterMap Observed.sent? =
      (observe path s steps).filterMap Observed.received? ++ (run path steps s).gui.events := by
  induction steps generalizing s with
  | nil => exact List.append_nil _
  | cons a steps ih =>
    rw [observe, List.filterMap_append, List.filterMap_append, ← List.append_assoc,
      events_step path, List.append_assoc, ih, List.append_assoc]
    rfl

/-- `lines_step` over a run. -/
theorem lines_run (path : Text → Text) (steps : List Step) {lines : List Text}
    (h : s.log.lines = lines.rtake maxLines) :
    (run path steps s).log.lines = (page lines (observe path s steps)).rtake maxLines := by
  induction steps generalizing s lines with
  | nil => exact h
  | cons a steps ih =>
    rw [observe, page_append]
    exact ih (lines_step path a h)

/-- The screen shows the last change received, in every run. -/
theorem state_run (path : Text → Text) (steps : List Step) (s : App) :
    (run path steps s).gui.state =
      (((observe path s steps).filterMap Observed.received?).filterMap VpnEvent.change?).getLastD
        s.gui.state := by
  induction steps generalizing s with
  | nil => rfl
  | cons a steps ih =>
    rw [observe, List.filterMap_append, List.filterMap_append, getLastD_append, ← state_step path]
    exact ih _

/-- The tray agrees with the screen if it did at the start. -/
theorem tray_run (path : Text → Text) (steps : List Step)
    (h : s.tray.connected = s.gui.state.isConnected) :
    (run path steps s).tray.connected = (run path steps s).gui.state.isConnected := by
  induction steps generalizing s with
  | nil => exact h
  | cons a steps ih => exact ih (tray_step path a h)

/-- In every run, the events are received in the order in which they were sent, and the others
    are on their way; the page has the last lines received since it was cleared; the screen
    shows the last change received; and the tray shows a connection exactly if the screen
    does. The page and the tray change nothing else. -/
theorem run_shows (path : Text → Text) (steps : List Step) :
    let s := run path steps {}
    let seen := observe path {} steps
    seen.filterMap Observed.sent? = seen.filterMap Observed.received? ++ s.gui.events ∧
      s.log.lines = (page [] seen).rtake maxLines ∧
      s.gui.state =
        ((seen.filterMap Observed.received?).filterMap VpnEvent.change?).getLastD .idle ∧
      (s.tray.status = if s.gui.state.isConnected then "Active".toList else "Passive".toList) ∧
      s.gui = (steps.filterMap Step.gui?).foldl (Gui.step path) {} :=
  ⟨events_run path steps {}, lines_run path steps (List.rtake_nil maxLines).symm,
    state_run path steps {},
    congrArg (fun connected => TrayState.status ⟨connected⟩) (tray_run path steps rfl),
    gui_run path steps {}⟩

end App

end OpenLawsVpn
