import OpenLawsVpn.Core.History
import OpenLawsVpn.Lib.Monitor

/-!
# The waits of a core client

The thread of the core delivers events while another thread waits for one of three
conditions. The flags are guarded by a mutex, but the fields of a challenge and the address
of a socket are written without it (`prepare`); what an event does with the mutex is
`update`, and whether it notifies is `notifies`. Together they are the handler
(`handle_eq`).

No wake-up is lost: whatever makes a condition true notifies (`sound_discipline`). So in
all interleavings of the two threads, a wait whose condition holds does not go on sleeping
(`wakes_up`), and what it sees is what the handlers made of the inputs.

* `Wait`: the three conditions, one for each of the waits;
* `CoreClient.Begun`: what the fields written without the mutex are, between two events;
* `wakes_up`: both together, in every state of every interleaving.
-/

namespace OpenLawsVpn

/-- What is waited for. -/
inductive Wait
  | saml
  | connected
  | finalDisconnect
  deriving DecidableEq, Repr

namespace CoreClient

/-- The condition of a wait. -/
def ready : Wait → CoreClient → Bool
  | .saml, c => c.samlReady
  | .connected, c => c.connectedReady
  | .finalDisconnect, c => c.finalDisconnect

/-- The fields of a challenge and the address of a socket are written without the mutex. -/
def prepare (input : CoreInput) (c : CoreClient) : CoreClient :=
  match input with
  | .event ev =>
    if ev.name = lit "DYNAMIC_CHALLENGE" then
      match parseChallenge ev.info with
      | some (stateId, samlUrl) => { c with stateId, samlUrl }
      | none => c
    else c
  | .log _ => c
  | .socketProtect remote _ => if remote ≠ [] then { c with remoteIp := remote } else c

/-- The input takes the mutex. -/
def locks : CoreInput → Bool
  | .event ev =>
    if ev.name = lit "DYNAMIC_CHALLENGE" then (parseChallenge ev.info).isSome
    else ev.name = lit "CONNECTED" ∨ ev.name = lit "NEED_CREDS" ∨ ev.name = lit "DISCONNECTED" ∨
      ev.name = lit "AUTH_FAILED" ∨ ev.name = lit "FATAL_ERROR"
  | _ => false

/-- What an event does with the mutex. -/
def update (input : CoreInput) (c : CoreClient) : CoreClient :=
  match input with
  | .event ev =>
    if ev.name = lit "DYNAMIC_CHALLENGE" then { c with done := true }
    else if ev.name = lit "CONNECTED" then { c with connected := true }
    else if ev.name = lit "NEED_CREDS" then if c.connected then { c with needReauth := true } else c
    else if ev.name = lit "DISCONNECTED" then
      if c.connected then { c with finalDisconnect := true } else c
    else if ev.name = lit "AUTH_FAILED" then
      if c.connected then { c with needReauth := true }
      else { c with error := true, errorMsg := ev.name ++ lit ": " ++ ev.info }
    else if ev.name = lit "FATAL_ERROR" then
      if c.connected then c
      else { c with error := true, errorMsg := ev.name ++ lit ": " ++ ev.info }
    else c
  | _ => c

/-- The event calls `notify_all`. -/
def notifies (input : CoreInput) (c : CoreClient) : Bool :=
  match input with
  | .event ev =>
    if ev.name = lit "DYNAMIC_CHALLENGE" then true
    else if ev.name = lit "CONNECTED" then true
    else if ev.name = lit "DISCONNECTED" then c.connected
    else if ev.name = lit "AUTH_FAILED" then !c.connected
    else if ev.name = lit "FATAL_ERROR" then !c.connected
    else false
  | _ => false

/-- The parts of a handler. -/
def discipline : Monitor.Discipline CoreClient CoreInput Wait where
  prepare := prepare
  locks := locks
  update := update
  notifies := notifies
  ready := ready
  timed w := w ≠ .finalDisconnect

/-- The parts make up the handler. -/
theorem handle_eq (settings : Settings) (now : Stamp) (input : CoreInput) (c : CoreClient) :
    (c.handle settings now input).1 =
      if locks input then update input (prepare input c) else prepare input c := by
  cases input with
  | log text => rfl
  | socketProtect remote ipv6 =>
    simp only [handle, socketProtect]
    cases settings.socketProtect <;> rfl
  | event ev =>
    simp only [handle, event, locks, update, prepare]
    by_cases hchallenge : ev.name = lit "DYNAMIC_CHALLENGE"
    · simp only [if_pos hchallenge]
      cases parseChallenge ev.info <;> rfl
    · simp only [if_neg hchallenge, decide_eq_true_eq]
      split_ifs <;> first | rfl | simp_all

/-- Whatever makes a condition true notifies, and has the mutex. -/
theorem sound_discipline : discipline.Sound where
  prepare input c w h := by
    -- What is written without the mutex are no flags.
    have hflags : ∀ w, ready w (prepare input c) = ready w c := fun w => by
      cases input with
      | log text => rfl
      | socketProtect remote ipv6 =>
        rw [prepare]
        split_ifs <;> cases w <;> rfl
      | event ev =>
        simp only [prepare]
        split_ifs
        · cases parseChallenge ev.info <;> cases w <;> rfl
        · rfl
    exact (hflags w).symm.trans h
  update input c w h := by
    change ready w (update input c) = true at h
    change ready w c = true ∨ notifies input c = true
    cases input with
    | log text => exact .inl h
    | socketProtect remote ipv6 => exact .inl h
    | event ev =>
      simp only [update, notifies] at h ⊢
      cases w <;> split_ifs at h ⊢ <;> simp_all [ready, samlReady, connectedReady]

/-! ## Runs -/

/-- The handlers of the inputs, one after another. -/
def handled (inputs : List CoreInput) : CoreClient :=
  inputs.foldl (fun c input =>
    if locks input then update input (prepare input c) else prepare input c) {}

/-- These are the handlers of the core client, whatever the clock shows. -/
theorem handled_eq (settings : Settings) (inputs : List (Stamp × CoreInput)) :
    handled (inputs.map Prod.snd) = handleAll settings inputs {} := by
  rw [handled, handleAll, List.foldl_map]
  congr
  funext c input
  exact (handle_eq settings input.1 input.2 c).symm

/-- The input that is begun. -/
def begun? : Monitor.Step CoreInput Wait Unit → Option CoreInput
  | .prepare _ input => some input
  | _ => none

/-- One input more is handled in the state after those before it. -/
theorem handled_concat (inputs : List CoreInput) (input : CoreInput) :
    handled (inputs ++ [input]) =
      if locks input then update input (prepare input (handled inputs))
      else prepare input (handled inputs) :=
  List.foldl_concat ..

/-- The state is that of the handlers of the inputs, but for what is left of the last one. -/
def Handles (inputs : List CoreInput) (shared : CoreClient) : Monitor.Updater CoreInput → Prop
  | .idle => shared = handled inputs
  | .updated _ => shared = handled inputs
  | .prepared input => locks input = true ∧ ∃ before, inputs = before ++ [input] ∧
      shared = prepare input (handled before)
  | .entered input => locks input = true ∧ ∃ before, inputs = before ++ [input] ∧
      shared = prepare input (handled before)

/-- What is begun, and what is left of it. -/
structure Begun (steps : List (Monitor.Step CoreInput Wait Unit))
    (s : Monitor.State CoreClient CoreInput Wait Unit) : Prop where
  handles : Handles (steps.filterMap begun?) s.shared (s.updater ())

theorem begun_start : Begun [] { shared := {} } where
  handles := rfl

variable {steps : List (Monitor.Step CoreInput Wait Unit)}
  {s s' : Monitor.State CoreClient CoreInput Wait Unit}

theorem begun_concat {a : Monitor.Step CoreInput Wait Unit} (ha : begun? a = none)
    (h : Handles (steps.filterMap begun?) s'.shared (s'.updater ())) : Begun (steps ++ [a]) s' where
  handles := by
    rwa [List.filterMap_append, List.filterMap_cons_none ha, List.filterMap_nil, List.append_nil]

/-- An input is begun without the mutex; one that does not take it is handled then. -/
theorem Begun.prepare (h : Begun steps s) (input : CoreInput) (hk : s.updater () = .idle) :
    Begun (steps ++ [.prepare () input])
      { s.setUpdater () (if locks input then .prepared input else .idle) with
        shared := CoreClient.prepare input s.shared } := by
  have hshared := h.handles
  rw [hk] at hshared
  have hbegun : (steps ++ [Monitor.Step.prepare () input]).filterMap begun? =
      steps.filterMap begun? ++ [input] := List.filterMap_append
  refine ⟨hbegun ▸ ?_⟩
  have hprepare : CoreClient.prepare input s.shared =
      CoreClient.prepare input (handled (steps.filterMap begun?)) :=
    congrArg (CoreClient.prepare input) hshared
  change Handles _ (CoreClient.prepare input s.shared) (if locks input then _ else _)
  split_ifs with hlocks
  · exact ⟨hlocks, _, rfl, hprepare⟩
  · exact hprepare.trans ((handled_concat _ input).trans (if_neg hlocks)).symm

/-- With the mutex, the input is handled to its end. -/
theorem Begun.update (h : Begun steps s) {input : CoreInput} (hk : s.updater () = .entered input) :
    Begun (steps ++ [.update ()])
      { s.setUpdater () (.updated (notifies input s.shared)) with
        shared := CoreClient.update input s.shared } := by
  have hshared := h.handles
  rw [hk] at hshared
  obtain ⟨hlocks, before, hbegun, hshared⟩ := hshared
  refine begun_concat rfl ?_
  change CoreClient.update input s.shared = handled _
  rw [hbegun, handled_concat, if_pos hlocks, hshared]

/-- Every step keeps what is handled, in whatever order the threads go on. -/
theorem Begun.step (h : Begun steps s) {a : Monitor.Step CoreInput Wait Unit}
    (hstep : Monitor.step discipline s a = some s') : Begun (steps ++ [a]) s' := by
  have hshared := h.handles
  cases Monitor.takes_of_step hstep with
  | enter hi howner => exact begun_concat rfl hshared
  | check hi => exact begun_concat rfl hshared
  | wake hi => exact begun_concat rfl hshared
  | timeOut hi htimed => exact begun_concat rfl hshared
  | prepare input hk => exact h.prepare input hk
  | update hk => exact h.update hk
  | lock hk howner =>
    rw [hk] at hshared
    exact begun_concat rfl hshared
  | notify hk =>
    rw [hk] at hshared
    exact begun_concat rfl hshared
  | unlock hk =>
    rw [hk] at hshared
    exact begun_concat rfl hshared

/-- In all interleavings of the thread of the core and the waiters: between its inputs, the
    flags are those that the handlers have set, and a wait whose condition holds while
    nobody has the mutex does not sleep, and is over as soon as it gets the mutex. -/
theorem wakes_up (h : Runs.run (Monitor.step discipline) { shared := {} } steps = some s) :
    (s.updater () = .idle → ∀ settings inputs, inputs.map Prod.snd = steps.filterMap begun? →
        s.shared = handleAll settings inputs {}) ∧
      (s.owner = none → ∀ w, ready w s.shared = true → s.waiter w ≠ .asleep ∧
        ((∃ ready, s.waiter w = .left ready) ∨ ∃ s',
          Runs.run (Monitor.step discipline) s [.enter w, .check w] = some s' ∧
            s'.waiter w = .left true)) := by
  refine ⟨fun hidle settings inputs hinputs => ?_, fun howner w hready =>
    Monitor.returns sound_discipline h howner hready⟩
  have hbegun : Begun steps s :=
    Runs.reached_word (Q := Begun) begun_start (fun hs hstep => Begun.step hs hstep) h
  have hshared := hbegun.handles
  rw [hidle] at hshared
  exact hshared.trans (hinputs ▸ handled_eq settings inputs)

/-- A wait for a challenge, asleep when it comes. -/
def challenged : List (Monitor.Step CoreInput Wait Unit) :=
  [.enter .saml, .check .saml,
    .prepare () (.event { name := lit "DYNAMIC_CHALLENGE", info := lit "CRV1:R:id:dXNlcg==:url" }),
    .lock (), .update (), .notify (), .unlock ()]

theorem challenged_ready :
    (Runs.run (Monitor.step discipline) { shared := {} } challenged).map
      (fun s => (s.owner, ready .saml s.shared)) = some (none, true) := by decide

theorem wakes_up_challenged : ∃ s : Monitor.State CoreClient CoreInput Wait Unit,
    Runs.run (Monitor.step discipline) { shared := {} } challenged = some s ∧
      s.waiter .saml ≠ .asleep := by
  obtain ⟨s, hs, hready⟩ := Option.map_eq_some_iff.1 challenged_ready
  obtain ⟨howner, hready⟩ := Prod.mk.inj hready
  exact ⟨s, hs, ((wakes_up hs).2 howner .saml hready).1⟩

end CoreClient

end OpenLawsVpn
