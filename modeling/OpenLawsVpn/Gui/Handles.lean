import OpenLawsVpn.Gui.Service
import OpenLawsVpn.Ownership

/-!
# The handles of the GUI

The GUI knows a client by a pointer, which it gets from `openvpn_client_new` and gives to
the C interface with every call. The service makes the calls on one pointer in one order:
the log callback, the mode, the phases, each at most once, and the two that release it
(`Handle.advance`), and no call after that (`handle_run`).

So no call meets a client that is not there, in whatever order the threads of the core
objects deliver and end in between, and nothing that is freed is freed again
(`calls_enabled`).

* `Handle.step`: the automaton of the calls on one pointer;
* `Service.Orderly`: all pointers are in a state of it, kept by every command;
* `Host`: the service on the process of `Ownership`, one call at a time;
* `Host.Follows`: the process has what the calls so far made;
* `Service.handle_run`, `Service.calls_enabled`: the results for every list of commands.
-/

namespace OpenLawsVpn

/-- What was done with a pointer to a client. -/
inductive Handle
  | unmade
  | made
  | observed
  | ready
  | challenged
  | connected
  | disconnected
  | freed
  deriving DecidableEq, Repr

/-- The client that a call of the library is for. -/
def ServiceAction.handle? : ServiceAction → Option ℕ
  | .new id _ => some id
  | .setLogCallback id => some id
  | .setConnectMode id _ => some id
  | .connectPhase1 id => some id
  | .connectPhase2 id _ _ _ => some id
  | .disconnect id => some id
  | .free id => some id
  | _ => none

/-- The calls on a pointer, in their order. -/
def Handle.advance : Handle → ServiceAction → Option Handle
  | unmade, .new _ _ => some made
  | made, .setLogCallback _ => some observed
  | observed, .setConnectMode _ _ => some ready
  | ready, .connectPhase1 _ => some challenged
  | challenged, .connectPhase2 _ _ _ _ => some connected
  | challenged, .disconnect _ => some disconnected
  | connected, .disconnect _ => some disconnected
  | disconnected, .free _ => some freed
  | _, _ => none

/-- The calls on the client with a number: other actions make no difference. -/
def Handle.step (id : ℕ) (h : Handle) (a : ServiceAction) : Option Handle :=
  if a.handle? = some id then h.advance a else some h

/-- The actions on other clients change nothing. -/
theorem Handle.run_skip {id : ℕ} {actions : List ServiceAction}
    (hactions : ∀ a ∈ actions, a.handle? ≠ some id) (h : Handle) :
    Runs.run (Handle.step id) h actions = some h := by
  induction actions with
  | nil => rfl
  | cons a actions ih =>
    rw [Runs.run, Handle.step, if_neg (hactions a List.mem_cons_self), Option.bind_some]
    exact ih fun b hb => hactions b (List.mem_cons_of_mem _ hb)

/-- The calls so far were possible, and so is the last one after them. -/
theorem Handle.run_concat {id : ℕ} {done : List ServiceAction} {a : ServiceAction} {h : Handle}
    (hrun : Runs.run (Handle.step id) .unmade (done ++ [a]) = some h) :
    ∃ h₀, Runs.run (Handle.step id) .unmade done = some h₀ ∧ h₀.step id a = some h := by
  rw [Runs.run_append] at hrun
  obtain ⟨h₀, hdone, hrun⟩ := Option.bind_eq_some_iff.1 hrun
  obtain ⟨h₁, hstep, hrun⟩ := Option.bind_eq_some_iff.1 hrun
  exact ⟨h₀, hdone, Option.some_inj.1 hrun ▸ hstep⟩

/-- The number of a client that is made. -/
def ServiceAction.made? : ServiceAction → Option ℕ
  | .new id _ => some id
  | _ => none

namespace Service

/-- The clients made are numbered in order, and the calls on each were made in the order
    of a handle; the client stored has gone through Phase 1. -/
structure Orderly (s : Service) : Prop where
  made : s.trace.filterMap ServiceAction.made? = List.range s.created
  handle : ∀ id, ∃ h, Runs.run (Handle.step id) .unmade s.trace = some h ∧
    (s.created ≤ id → h = .unmade) ∧ (s.client = some id → h = .challenged ∨ h = .connected)

/-- Before the first command there is no client. -/
theorem orderly_init : Orderly {} where
  made := rfl
  handle _ := ⟨.unmade, rfl, fun _ => rfl, fun h => by cases h⟩

/-- An attempt makes the calls of the phases on its own client. -/
theorem run_attempt (id : ℕ) (o : ConnectOutcome) :
    ∃ h, Runs.run (Handle.step id) .ready (attempt id o) = some h ∧
      (h = .challenged ∨ h = .connected) := by
  rcases afterPhase1_cases id o with ⟨e, h⟩ | ⟨url, e, h⟩ | ⟨url, a, h, rfl | ⟨i, t, r, rfl⟩⟩
  all_goals
    rw [attempt, h]
    simp [Runs.run, Handle.step, ServiceAction.handle?, Handle.advance]

/-- An attempt makes no calls on another client, and makes no client. -/
theorem handle?_attempt (id : ℕ) (o : ConnectOutcome) :
    ∀ a ∈ attempt id o, (a.handle? = none ∨ a.handle? = some id) ∧ a.made? = none := by
  rcases afterPhase1_cases id o with ⟨e, h⟩ | ⟨url, e, h⟩ | ⟨url, a, h, rfl | ⟨i, t, r, rfl⟩⟩
  all_goals
    rw [attempt, h]
    simp [ServiceAction.handle?, ServiceAction.made?]

variable {s : Service}

/-- A Connect makes the calls of a login on a new client; the one stored before is only forgotten.
    -/
theorem Orderly.connect (h : s.Orderly) (configPath : Text) (o : ConnectOutcome) :
    (s.connect configPath o).Orderly := by
  by_cases hnul : '\x00' ∈ configPath
  · rw [Service.connect, if_pos hnul]
    refine ⟨?_, fun id => ?_⟩
    · rw [List.filterMap_append, h.made]
      exact List.append_nil _
    · obtain ⟨handle, hrun, hrest⟩ := h.handle id
      exact ⟨handle, by rw [Runs.run_append, hrun]; rfl, hrest⟩
  · rw [Service.connect, if_neg hnul]
    refine ⟨?_, fun id => ?_⟩
    · have hattempt : (attempt s.created o).filterMap ServiceAction.made? = [] :=
        List.filterMap_eq_nil_iff.2 fun a ha => (handle?_attempt s.created o a ha).2
      rw [List.filterMap_append, List.filterMap_append, h.made, hattempt, List.range_succ,
        List.append_nil]
      rfl
    · obtain ⟨handle, hrun, hfresh, hstored⟩ := h.handle id
      rw [Runs.run_append, Runs.run_append, hrun, Option.bind_some]
      by_cases hid : id = s.created
      · -- The client that is made.
        subst hid
        obtain rfl := hfresh le_rfl
        obtain ⟨handle', hrun', hhandle'⟩ := run_attempt s.created o
        refine ⟨handle', ?_, fun hle => absurd hle (Nat.not_succ_le_self _), fun _ => hhandle'⟩
        simpa [Runs.run, Handle.step, ServiceAction.handle?, Handle.advance] using hrun'
      · have hskip : Runs.run (Handle.step id) handle
            [.new s.created configPath, .setLogCallback s.created,
              .setConnectMode s.created 1] = some handle :=
          Handle.run_skip (by simp [ServiceAction.handle?, Ne.symm hid]) handle
        refine ⟨handle, ?_, fun hle => hfresh (Nat.le_of_succ_le hle), fun heq => ?_⟩
        · rw [hskip, Option.bind_some]
          refine Handle.run_skip (fun a ha heq => ?_) handle
          rcases (handle?_attempt s.created o a ha).1 with hnone | hsome
          · cases hnone.symm.trans heq
          · exact hid (Option.some_inj.1 (heq.symm.trans hsome))
        · exact absurd (Option.some_inj.1 heq).symm hid

/-- A Disconnect releases the client stored. -/
theorem Orderly.disconnect (h : s.Orderly) : s.disconnect.Orderly := by
  refine ⟨?_, fun id => ?_⟩
  · rw [Service.disconnect]
    cases s.client <;> simp [h.made, ServiceAction.made?]
  · obtain ⟨handle, hrun, hfresh, hstored⟩ := h.handle id
    rw [Service.disconnect]
    simp only [Runs.run_append, hrun, Option.bind_some]
    -- The client stored is disconnected and freed, and every other one is left alone.
    by_cases hid : s.client = some id
    · rw [hid]
      refine ⟨.freed, ?_, fun hle => ?_, fun heq => by cases heq⟩
      · rcases hstored hid with rfl | rfl <;>
          simp [Runs.run, Handle.step, ServiceAction.handle?, Handle.advance]
      · rcases hstored hid with rfl | rfl <;> cases hfresh hle
    · refine ⟨handle, ?_, hfresh, fun heq => by cases heq⟩
      cases hclient : s.client with
      | none => simp [Runs.run, Handle.step, ServiceAction.handle?]
      | some id' =>
        have hne : id' ≠ id := fun heq => hid (hclient.trans (congrArg some heq))
        simp [Runs.run, Handle.step, ServiceAction.handle?, hne]

/-- Every run of the service is orderly. -/
theorem orderly_run (commands : List VpnCommand) (h : s.Orderly) : (run commands s).Orderly := by
  rw [run]
  induction commands generalizing s with
  | nil => exact h
  | cons command commands ih =>
    cases command with
    | connect configPath o => exact ih (h.connect configPath o)
    | disconnect => exact ih h.disconnect

end Service

/-! ## The process -/

/-- The call of the library, with what the phases meet: the content of the profile, and an
    error of its evaluation. -/
def ServiceAction.call? (file evalError : Option Bytes) : ServiceAction → Option Process.Step
  | .new _ configPath => some (.new (Utf8.encode configPath))
  | .setLogCallback id => some (.setLogCallback id)
  | .setConnectMode id mode => some (.setConnectMode id (if mode = 0 then .direct else .dbus))
  | .connectPhase1 id => some (.connectPhase1 id file evalError)
  | .connectPhase2 id _ _ _ => some (.connectPhase2 id file)
  | .disconnect id => some (.disconnect id)
  | .free id => some (.free id)
  | _ => none

/-- The service with what it is going to do, and all that there is of the library in the
    process. -/
structure Host where
  todo : List ServiceAction
  process : Process := {}

/-- A step of the service, or of the thread of a core object. -/
inductive HostStep
  /-- The service goes on, unless a call has not returned. -/
  | proceed (file evalError : Option Bytes)
  | finish (timeout : Bool)
  | deliver (k : ℕ) (now : Stamp) (input : CoreInput)
  | exit (k : ℕ)

namespace Host

/-- The service makes its next call when the one before has returned; the threads go on meanwhile.
    -/
def step (settings : Settings) (h : Host) : HostStep → Option Host
  | .proceed file evalError =>
    match h.process.calls, h.todo with
    | [], a :: todo =>
      match a.call? file evalError with
      | none => some { h with todo }
      | some call => (h.process.step settings call).map fun process => { todo, process }
    | _, _ => none
  | .finish timeout =>
    (h.process.step settings (.finish 0 timeout)).map fun process => { h with process }
  | .deliver k now input =>
    (h.process.step settings (.deliver k now input)).map fun process => { h with process }
  | .exit k => (h.process.step settings (.exit k)).map fun process => { h with process }

end Host

variable {settings : Settings} {s s' : Process}

/-- Only `openvpn_client_new` makes a client. -/
theorem Process.length_clients_step {a : Process.Step} (ha : ∀ configPath, a ≠ .new configPath)
    (h : s.step settings a = some s') : s'.clients.length = s.clients.length := by
  cases Process.takes_of_step h with
  | new configPath => exact absurd rfl (ha configPath)
  | setConnectMode | refuse | start | free => exact List.length_set
  | _ => rfl

/-- What the service can do after what it has done: the next client has the next number, and
    every call is the next one on its handle. -/
structure Next (done : List ServiceAction) (a : ServiceAction) : Prop where
  made : ∀ id, a.made? = some id → id = (done.filterMap ServiceAction.made?).length
  advance : ∀ id, a.handle? = some id → ∃ h h',
    Runs.run (Handle.step id) .unmade done = some h ∧ h.advance a = some h'

/-- The clients that are made and not freed are there. -/
structure Present (done : List ServiceAction) (s : Process) : Prop where
  length : s.clients.length = (done.filterMap ServiceAction.made?).length
  live : ∀ id h, Runs.run (Handle.step id) .unmade done = some h → h ≠ .unmade → h ≠ .freed →
    s.Live id

namespace Present

variable {done : List ServiceAction} (h : Present done s)
include h

/-- What is no call of the service leaves them there. -/
theorem keep (hlength : s'.clients.length = s.clients.length) (hkeeps : s.Keeps s') :
    Present done s' where
  length := hlength.trans h.length
  live id handle hrun hunmade hfreed := hkeeps.1 id (h.live id handle hrun hunmade hfreed)

variable {a : ServiceAction} (hnext : Next done a) {file evalError : Option Bytes}
include hnext

/-- The client of the next call is there. -/
theorem live_next {id : ℕ} (hid : a.handle? = some id) (hmade : a.made? = none) : s.Live id := by
  obtain ⟨handle, handle', hrun, hadvance⟩ := hnext.advance id hid
  refine h.live id handle hrun ?_ ?_
  · rintro rfl
    cases a <;> simp_all [Handle.advance, ServiceAction.made?]
  · rintro rfl
    cases a <;> simp_all [Handle.advance]

/-- The next call is possible, with none that has not returned. -/
theorem isSome_step (hcalls : s.calls = []) {call : Process.Step}
    (hcall : a.call? file evalError = some call) : (s.step settings call).isSome = true := by
  cases a with
  | new id configPath =>
    obtain rfl := Option.some.inj hcall
    rfl
  | emit event => cases hcall
  | openBrowser url => cases hcall
  | panic => cases hcall
  | free id =>
    obtain rfl := Option.some.inj hcall
    obtain ⟨client, hclient⟩ := Option.isSome_iff_exists.1 (h.live_next hnext rfl rfl)
    rw [Process.step, hclient, Option.bind_some, if_pos (by simp [hcalls])]
    rfl
  | _ =>
    obtain rfl := Option.some.inj hcall
    obtain ⟨client, hclient⟩ := Option.isSome_iff_exists.1 (h.live_next hnext rfl rfl)
    rw [Process.step, hclient]
    rfl

omit h hnext in
/-- A client that was just made is there. -/
theorem live_of_new (configPath : Bytes) :
    Process.Live { s with clients := s.clients ++ [{ configPath }] } s.clients.length := by
  rw [Process.Live, Process.client?, List.getElem?_concat_length]
  rfl

omit hnext in
/-- The clients of other calls are there as before. -/
theorem live_of_other {id : ℕ} {handle : Handle} (hid : a.handle? ≠ some id)
    (hrun : Runs.run (Handle.step id) .unmade (done ++ [a]) = some handle)
    (hunmade : handle ≠ .unmade) (hfreed : handle ≠ .freed) : s.Live id := by
  obtain ⟨h₀, hrun, hstep⟩ := Handle.run_concat hrun
  rw [Handle.step, if_neg hid] at hstep
  exact h.live id handle (Option.some_inj.1 hstep ▸ hrun) hunmade hfreed

omit hnext in
/-- The client that is made is the one with the next number. -/
theorem callNew {id : ℕ} {configPath : Text} (hnext : Next done (.new id configPath))
    (path : Bytes) : Present (done ++ [.new id configPath])
      { s with clients := s.clients ++ [{ configPath := path }] } := by
  have hid : id = s.clients.length := (hnext.made id rfl).trans h.length.symm
  refine ⟨?_, fun id' handle hrun hunmade hfreed => ?_⟩
  · rw [List.length_append, List.filterMap_append, List.length_append, h.length]
    rfl
  · by_cases hid' : id' = id
    · rw [hid', hid]
      exact live_of_new _
    · have hother : (ServiceAction.new id configPath).handle? ≠ some id' :=
        fun heq => hid' (Option.some.inj heq).symm
      exact Process.live_new _ (h.live_of_other hother hrun hunmade hfreed)

omit hnext in
/-- The client that is freed is not there any more, and its handle says so. -/
theorem live_callFree {id' id : ℕ} {handle : Handle}
    (hstep : s.step settings (.free id') = some s')
    (hrun : Runs.run (Handle.step id) .unmade (done ++ [.free id']) = some handle)
    (hunmade : handle ≠ .unmade) (hfreed : handle ≠ .freed) : s'.Live id := by
  have hne : id' ≠ id := by
    rintro rfl
    obtain ⟨h₀, -, hstep⟩ := Handle.run_concat hrun
    have hadvance : h₀.advance (.free id') = some handle := (if_pos rfl).symm.trans hstep
    cases h₀ <;> cases hadvance
    exact hfreed rfl
  have hother : (ServiceAction.free id').handle? ≠ some id := fun heq => hne (Option.some.inj heq)
  exact ((Process.step_free hstep).2 id).2
    ⟨hne.symm, h.live_of_other hother hrun hunmade hfreed⟩

/-- The next call leaves the clients there that are made and not freed. -/
theorem call {call : Process.Step} (hcall : a.call? file evalError = some call)
    (hstep : s.step settings call = some s') : Present (done ++ [a]) s' := by
  by_cases hnew : ∃ id configPath, a = .new id configPath
  · obtain ⟨id, configPath, rfl⟩ := hnew
    obtain rfl := Option.some.inj hcall
    obtain rfl := Option.some.inj hstep
    exact h.callNew hnext _
  -- Only `new` makes a client, and only `free` takes one away.
  have hmade : a.made? = none := by
    cases a with
    | new id configPath => exact absurd ⟨id, configPath, rfl⟩ hnew
    | _ => rfl
  have hcallNew : ∀ configPath, call ≠ .new configPath := by
    rintro configPath rfl
    cases a <;> simp [ServiceAction.call?] at hcall hnew
  have hlength : s'.clients.length = ((done ++ [a]).filterMap ServiceAction.made?).length := by
    rw [Process.length_clients_step hcallNew hstep, h.length, List.filterMap_append,
      List.filterMap_cons_none hmade, List.filterMap_nil, List.append_nil]
  refine ⟨hlength, fun id handle hrun hunmade hfreed => ?_⟩
  by_cases hfree : ∃ id, a = .free id
  · obtain ⟨id', rfl⟩ := hfree
    obtain rfl := Option.some.inj hcall
    exact h.live_callFree hstep hrun hunmade hfreed
  · have hcallFree : ∀ c, call ≠ .free c := by
      rintro c rfl
      cases a <;> simp [ServiceAction.call?] at hcall hfree
    refine (Process.keeps_step hcallFree hstep).1 id ?_
    by_cases hid : a.handle? = some id
    · exact h.live_next hnext hid hmade
    · exact h.live_of_other hid hrun hunmade hfreed

/-- What is no call of the library leaves the clients there. -/
theorem other (hcall : a.call? file evalError = none) : Present (done ++ [a]) s := by
  have hhandle : a.handle? = none ∧ a.made? = none := by
    cases a <;> simp [ServiceAction.call?, ServiceAction.handle?, ServiceAction.made?] at hcall ⊢
  refine ⟨?_, fun id handle hrun => ?_⟩
  · rw [h.length, List.filterMap_append, List.filterMap_cons_none hhandle.2, List.filterMap_nil,
      List.append_nil]
  · obtain ⟨h₀, hrun, hstep⟩ := Handle.run_concat hrun
    rw [Handle.step, if_neg (by simp [hhandle.1])] at hstep
    exact h.live id handle (Option.some_inj.1 hstep ▸ hrun)

end Present

/-! ## The service on the process -/

namespace Host

variable {host host' : Host} {trace : List ServiceAction}

/-- What the service has done and what it is going to do make up its trace. -/
structure Follows (trace : List ServiceAction) (h : Host) : Prop where
  done : ∃ done, trace = done ++ h.todo ∧ Present done h.process
  shared : h.process.Shared

/-- The process has the clients that the actions performed made and did not free, with their
    shares of core objects. -/
theorem Follows.step (htrace : ∀ done a todo, trace = done ++ a :: todo → Next done a)
    (h : Follows trace host) {a : HostStep} (hstep : host.step settings a = some host') :
    Follows trace host' := by
  obtain ⟨done, hdone, hpresent⟩ := h.done
  cases a with
  | proceed file evalError =>
    rw [Host.step] at hstep
    split at hstep
    case h_2 => cases hstep
    case h_1 a todo hcalls htodo =>
      rw [htodo] at hdone
      have hnext := htrace done a todo hdone
      have hdone' : trace = done ++ [a] ++ todo := by rw [hdone, List.append_assoc]; rfl
      cases hcall : a.call? file evalError with
      | none =>
        rw [hcall] at hstep
        obtain rfl := Option.some.inj hstep
        exact ⟨⟨done ++ [a], hdone', hpresent.other hnext hcall⟩, h.shared⟩
      | some call =>
        rw [hcall] at hstep
        obtain ⟨s', hs', rfl⟩ := Option.map_eq_some_iff.1 hstep
        exact ⟨⟨done ++ [a], hdone', hpresent.call hnext hcall hs'⟩, h.shared.step hs'⟩
  -- The other steps are none of the service: they make no client and free none.
  | finish timeout =>
    obtain ⟨s', hs', rfl⟩ := Option.map_eq_some_iff.1 hstep
    exact ⟨⟨done, hdone, hpresent.keep (Process.length_clients_step (by simp) hs')
      (Process.keeps_step (by simp) hs')⟩, h.shared.step hs'⟩
  | deliver k now input =>
    obtain ⟨s', hs', rfl⟩ := Option.map_eq_some_iff.1 hstep
    exact ⟨⟨done, hdone, hpresent.keep (Process.length_clients_step (by simp) hs')
      (Process.keeps_step (by simp) hs')⟩, h.shared.step hs'⟩
  | exit k =>
    obtain ⟨s', hs', rfl⟩ := Option.map_eq_some_iff.1 hstep
    exact ⟨⟨done, hdone, hpresent.keep (Process.length_clients_step (by simp) hs')
      (Process.keeps_step (by simp) hs')⟩, h.shared.step hs'⟩

/-- A call that has not returned can, after a timeout at the latest. -/
theorem Follows.isSome_finish (h : Follows trace host) (hcalls : host.process.calls ≠ []) :
    (host.step settings (.finish true)).isSome = true := by
  obtain ⟨call, calls, hcalls⟩ := List.exists_cons_of_ne_nil hcalls
  rw [Host.step, Option.isSome_map, Process.step, hcalls]
  simp only [List.getElem?_cons_zero, Option.bind_some]
  cases hcore : call.core with
  | none => rfl
  | some k =>
    obtain ⟨o, ho, -⟩ := h.shared.call k (by simp [hcalls, hcore])
    simp only [ho, Option.bind_some, true_or, if_true, Option.isSome_some]

/-- When no call is under way and an action is left, that action is possible. -/
theorem Follows.isSome_proceed (htrace : ∀ done a todo, trace = done ++ a :: todo → Next done a)
    (h : Follows trace host) (hcalls : host.process.calls = []) (htodo : host.todo ≠ [])
    (file evalError : Option Bytes) :
    (host.step settings (.proceed file evalError)).isSome = true := by
  obtain ⟨done, hdone, hpresent⟩ := h.done
  obtain ⟨a, todo, htodo⟩ := List.exists_cons_of_ne_nil htodo
  rw [htodo] at hdone
  simp only [Host.step, hcalls, htodo]
  cases hcall : a.call? file evalError with
  | none => rfl
  | some call =>
    rw [Option.isSome_map]
    exact hpresent.isSome_step (htrace done a todo hdone) hcalls hcall

end Host

namespace Service

/-- The trace of the service makes every call in its turn. -/
theorem next_run (commands : List VpnCommand) {done todo : List ServiceAction} {a : ServiceAction}
    (htrace : (run commands {}).trace = done ++ a :: todo) : Next done a := by
  have h := orderly_run commands orderly_init
  refine ⟨fun id hid => ?_, fun id hid => ?_⟩
  · have hmade := h.made
    rw [htrace, List.filterMap_append, List.filterMap_cons_some hid] at hmade
    have hget := congrArg (·[(done.filterMap ServiceAction.made?).length]?) hmade
    simp only [List.getElem?_append_right le_rfl, Nat.sub_self, List.getElem?_cons_zero] at hget
    obtain ⟨hlt, hvalue⟩ := List.getElem?_eq_some_iff.1 hget.symm
    rw [← hvalue, List.getElem_range]
  · obtain ⟨handle, hrun, -⟩ := h.handle id
    rw [htrace, Runs.run_append] at hrun
    obtain ⟨h₀, hdone, hrun⟩ := Option.bind_eq_some_iff.1 hrun
    obtain ⟨h₁, hstep, -⟩ := Option.bind_eq_some_iff.1 hrun
    rw [Handle.step, if_pos hid] at hstep
    exact ⟨h₀, h₁, hdone, hstep⟩

/-- The calls on each client are made in the order of a handle, whatever is commanded, and the
    client stored is one that was not released. -/
theorem handle_run (commands : List VpnCommand) (id : ℕ) :
    ∃ h, Runs.run (Handle.step id) .unmade (run commands {}).trace = some h ∧
      ((run commands {}).created ≤ id → h = .unmade) ∧
      ((run commands {}).client = some id → h = .challenged ∨ h = .connected) :=
  (orderly_run commands orderly_init).handle id

/-- However the threads go on, no call of the service meets a client that is not there: the
    service goes on with what it has to do, and a call that it waits for returns. The core
    object of every client and that of the call have a share of each. -/
theorem calls_enabled (settings : Settings) (commands : List VpnCommand) (steps : List HostStep)
    (host : Host)
    (h : Runs.run (Host.step settings) { todo := (run commands {}).trace } steps = some host) :
    host.process.Shared ∧
      (host.process.calls ≠ [] → (host.step settings (.finish true)).isSome = true) ∧
      (host.process.calls = [] → host.todo ≠ [] → ∀ file evalError,
        (host.step settings (.proceed file evalError)).isSome = true) := by
  have hinit : Host.Follows (run commands {}).trace { todo := (run commands {}).trace } := by
    have hempty : Runs.run (Process.step settings) {} [] = some {} := rfl
    refine ⟨⟨[], rfl, rfl, fun id handle hrun hunmade => ?_⟩, Process.shared_of_run hempty⟩
    exact absurd (Option.some.inj hrun).symm hunmade
  have hfollows := Runs.reached
    (fun hs hstep => Host.Follows.step (fun _ _ _ => next_run commands) hs hstep) hinit h
  exact ⟨hfollows.shared, hfollows.isSome_finish,
    hfollows.isSome_proceed fun _ _ _ => next_run commands⟩

/-- Phase 1 times out, and is connected before the client is disconnected. -/
def lateConnection : List HostStep :=
  let proceed : HostStep := .proceed (some (lit "client\n")) none
  [proceed, proceed, proceed, proceed, proceed, .finish true, proceed, proceed,
    .deliver 0 ⟨2024, 1, 1, 0, 0, 1⟩ (.event ⟨lit "CONNECTED", []⟩), proceed]

theorem calls_enabled_lateConnection :
    let settings : Settings := { clock := fun _ => ⟨2024, 1, 1, 0, 0, 0⟩ }
    let commands : List VpnCommand := [.connect "a.ovpn".toList failed, .disconnect]
    ∃ host,
      Runs.run (Host.step settings) { todo := (run commands {}).trace } lateConnection = some host ∧
      host.process.Shared ∧
      (host.process.calls ≠ [] → (host.step settings (.finish true)).isSome = true) ∧
      (host.process.calls = [] → host.todo ≠ [] → ∀ file evalError,
        (host.step settings (.proceed file evalError)).isSome = true) := by
  intro settings commands
  obtain ⟨host, hrun⟩ := Option.isSome_iff_exists.1 (show (Runs.run (Host.step settings)
    { todo := (run commands {}).trace } lateConnection).isSome = true by decide)
  exact ⟨host, hrun, calls_enabled settings commands lateConnection host hrun⟩

end Service

end OpenLawsVpn
