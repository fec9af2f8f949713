import Mathlib.Data.List.Nodup
import OpenLawsVpn.Client
import OpenLawsVpn.Lib.Runs

/-!
# Who keeps what alive

An application makes clients, calls their phases and frees them. A phase makes a core
object and starts a thread for it, which goes on after the phase has returned, and
after the core is asked to stop: it ends when it ends.

A core object is shared by the client that points to it, by the call of the phase that
made it and by its thread, and is there as long as one of them is, so that it is there for
each of them (`shared_of_run`). It points back to its client, but that is no share:
whether what a thread delivers reaches a client that is there still depends on when the
client was freed (`reaches_iff`).

The steps of all clients and threads are interleaved in any order. Clients and core
objects are known by their numbers, in the order in which they were made.

* `Process.step`: one step of an application or of a thread, which is not possible on a client
  that is freed, nor by a thread that has ended;
* `Process.Takes`, `Process.takes_of_step`: the steps by what they change, for proofs by cases;
* `Process.keeps_step`, `Process.step_free`: only the step that frees a client takes one away;
* `Process.Shared`: every core object that is used has a share of its user, kept by every step
  (`Process.Shared.step`);
* `Process.reaches_iff`: in all states of a run, threads reach only clients that are there, exactly
  if each client is freed when its threads have ended;
* `Process.not_reaches`: a run in which the next event meets a client that was freed.
-/

namespace OpenLawsVpn

/-- A core object, with the client that it points back to, and who shares it: its client,
    the call of the phase that made it, and the thread, until that has ended. -/
structure CoreObject where
  parent : ℕ
  core : CoreClient := {}
  stopping : Bool := false
  impl : Bool := true
  call : Bool := false
  thread : Bool := false
  deriving DecidableEq, Repr

/-- A client, with the core object that it points to. -/
structure ClientObject where
  configPath : Bytes
  mode : ConnectMode := .dbus
  core : Option ℕ := none
  freed : Bool := false
  deriving DecidableEq, Repr

/-- A call of a phase that has not returned: what it waits for in which core object, or
    for the session. -/
structure PhaseCall where
  client : ℕ
  core : Option ℕ
  ready : CoreClient → Bool

/-- All that there is in the process of the application. -/
structure Process where
  clients : List ClientObject := []
  cores : List CoreObject := []
  calls : List PhaseCall := []

namespace Process

/-- A step of the application, or of the thread of a core object. -/
inductive Step
  | new (configPath : Bytes)
  | setLogCallback (c : ℕ)
  | setConnectMode (c : ℕ) (mode : ConnectMode)
  /-- A phase is called, with the content of the profile and an error of its evaluation. -/
  | connectPhase1 (c : ℕ) (file evalError : Option Bytes)
  | connectPhase2 (c : ℕ) (file : Option Bytes)
  /-- A call returns, for a timeout or not. -/
  | finish (i : ℕ) (timeout : Bool)
  | disconnect (c : ℕ)
  | free (c : ℕ)
  /-- A thread delivers an event, a line of log or a socket. -/
  | deliver (k : ℕ) (now : Stamp) (input : CoreInput)
  /-- A thread ends. -/
  | exit (k : ℕ)

variable (settings : Settings) (s : Process)

/-- The client with a number, if it is there still. -/
def client? (c : ℕ) : Option ClientObject := s.clients[c]?.filter fun client => !client.freed

/-- The client with the number is there: made, and not freed. -/
def Live (c : ℕ) : Prop := (s.client? c).isSome = true

instance (c : ℕ) : Decidable (s.Live c) := inferInstanceAs (Decidable (_ = true))

/-- The core object with the number is changed. -/
def modifyCore (k : ℕ) (f : CoreObject → CoreObject) : Process :=
  { s with cores := s.cores.modify k f }

/-- The client gives up its share in the core object that it points to. -/
def reset (client : ClientObject) : Process :=
  match client.core with
  | none => s
  | some k => s.modifyCore k ({ · with impl := false })

/-- A new core object, which the client points to from now on. -/
def makeCore (c : ℕ) (client : ClientObject) : Process :=
  { s with
    cores := (s.reset client).cores ++ [{ parent := c }]
    clients := s.clients.set c { client with core := some s.cores.length } }

/-- The thread of the core object with the number is started, and the call waits for it. -/
def start (c k : ℕ) (ready : CoreClient → Bool) : Process :=
  { s.modifyCore k ({ · with call := true, thread := true }) with
    calls := s.calls ++ [⟨c, some k, ready⟩] }

/-- What a step does; `none` where it is not possible, as a call on a client that is freed. -/
def step : Step → Option Process
  | .new configPath => some { s with clients := s.clients ++ [{ configPath := configPath }] }
  | .setLogCallback c => (s.client? c).map fun _ => s
  | .setConnectMode c mode => (s.client? c).map fun client =>
      { s with clients := s.clients.set c { client with mode := mode } }
  | .connectPhase1 c file evalError => (s.client? c).map fun client =>
      match readAndFilterConfig client.configPath file, evalError with
      | .ok _, none => (s.makeCore c client).start c s.cores.length CoreClient.samlReady
      | _, _ => s.makeCore c client
  | .connectPhase2 c file => (s.client? c).map fun client =>
      match client.mode with
      | .direct =>
        match readAndFilterConfig client.configPath file with
        | .ok _ => (s.makeCore c client).start c s.cores.length CoreClient.connectedReady
        | .error _ => s.makeCore c client
      | .dbus => { s with calls := s.calls ++ [⟨c, none, fun _ => true⟩] }
  | .finish i timeout => s.calls[i]?.bind fun call =>
      let s' := { s with calls := s.calls.eraseIdx i }
      match call.core with
      | none => some s'
      | some k => s.cores[k]?.bind fun o =>
          if timeout ∨ call.ready o.core then some (s'.modifyCore k ({ · with call := false }))
          else none
  | .disconnect c => (s.client? c).map fun client =>
      match client.core with
      | none => s
      | some k => s.modifyCore k ({ · with stopping := true })
  | .free c => (s.client? c).bind fun client =>
      if ∀ call ∈ s.calls, call.client ≠ c then
        some { s.reset client with clients := s.clients.set c { client with freed := true } }
      else none
  | .deliver k now input => s.cores[k]?.bind fun o =>
      if o.thread then
        some (s.modifyCore k fun o =>
          let (core, actions) := o.core.handle settings now input
          { o with core := core, stopping := o.stopping || decide (CoreAction.stop ∈ actions) })
      else none
  | .exit k => s.cores[k]?.bind fun o =>
      if o.thread then some (s.modifyCore k ({ · with thread := false })) else none

/-- The client of a phase that is called. -/
def Step.phase? : Step → Option ℕ
  | .connectPhase1 c _ _ => some c
  | .connectPhase2 c _ => some c
  | _ => none

/-- The steps that are possible, by what they change: proofs about `step` go by these cases. -/
inductive Takes (settings : Settings) (s : Process) : Step → Process → Prop
  | new (configPath : Bytes) :
    Takes settings s (.new configPath) { s with clients := s.clients ++ [{ configPath }] }
  | setLogCallback (c : ℕ) : Takes settings s (.setLogCallback c) s
  | setConnectMode {c : ℕ} {client : ClientObject} (hclient : s.client? c = some client)
    (mode : ConnectMode) :
    Takes settings s (.setConnectMode c mode)
      { s with clients := s.clients.set c { client with mode := mode } }
  /-- A phase ends with the core object made: the profile is not read, or not accepted. -/
  | refuse {a : Step} {c : ℕ} {client : ClientObject} (hclient : s.client? c = some client)
    (ha : a.phase? = some c) : Takes settings s a (s.makeCore c client)
  | start {a : Step} {c : ℕ} {client : ClientObject} (hclient : s.client? c = some client)
    (ha : a.phase? = some c) (ready : CoreClient → Bool) :
    Takes settings s a ((s.makeCore c client).start c s.cores.length ready)
  /-- Phase 2 over D-Bus has no core object. -/
  | awaitSession (c : ℕ) (file : Option Bytes) :
    Takes settings s (.connectPhase2 c file)
      { s with calls := s.calls ++ [⟨c, none, fun _ => true⟩] }
  | finishSession {i : ℕ} {call : PhaseCall} (hcall : s.calls[i]? = some call)
    (hcore : call.core = none) (timeout : Bool) :
    Takes settings s (.finish i timeout) { s with calls := s.calls.eraseIdx i }
  | finishCore {i k : ℕ} {call : PhaseCall} (hcall : s.calls[i]? = some call)
    (hcore : call.core = some k) (timeout : Bool) :
    Takes settings s (.finish i timeout)
      (modifyCore { s with calls := s.calls.eraseIdx i } k ({ · with call := false }))
  /-- There is no core object to stop. -/
  | disconnect (c : ℕ) : Takes settings s (.disconnect c) s
  | stop (c k : ℕ) :
    Takes settings s (.disconnect c) (s.modifyCore k ({ · with stopping := true }))
  | free {c : ℕ} {client : ClientObject} (hclient : s.client? c = some client) :
    Takes settings s (.free c)
      { s.reset client with clients := s.clients.set c { client with freed := true } }
  | deliver (k : ℕ) (now : Stamp) (input : CoreInput) :
    Takes settings s (.deliver k now input) (s.modifyCore k fun o =>
      { o with
        core := (o.core.handle settings now input).1
        stopping := o.stopping || decide (.stop ∈ (o.core.handle settings now input).2) })
  | exit (k : ℕ) : Takes settings s (.exit k) (s.modifyCore k ({ · with thread := false }))

variable {settings s} in
/-- A step that is possible is one of these. -/
theorem takes_of_step {a : Step} {s' : Process} (h : s.step settings a = some s') :
    Takes settings s a s' := by
  cases a with
  | new configPath =>
    obtain rfl := Option.some.inj h
    exact .new configPath
  | setLogCallback c =>
    obtain ⟨client, -, rfl⟩ := Option.map_eq_some_iff.1 h
    exact .setLogCallback c
  | setConnectMode c mode =>
    obtain ⟨client, hclient, rfl⟩ := Option.map_eq_some_iff.1 h
    exact .setConnectMode hclient mode
  | connectPhase1 c file evalError =>
    obtain ⟨client, hclient, rfl⟩ := Option.map_eq_some_iff.1 h
    -- The profile can be read, or the phase makes no core object.
    split
    · exact .start hclient rfl _
    · exact .refuse hclient rfl
  | connectPhase2 c file =>
    obtain ⟨client, hclient, rfl⟩ := Option.map_eq_some_iff.1 h
    -- Only direct mode makes a core object of its own.
    cases client.mode with
    | direct =>
      dsimp only
      split
      · exact .start hclient rfl _
      · exact .refuse hclient rfl
    | dbus => exact .awaitSession c file
  | finish i timeout =>
    obtain ⟨call, hcall, h⟩ := Option.bind_eq_some_iff.1 h
    -- A call without a core object waits for the session.
    cases hcore : call.core with
    | none =>
      simp only [hcore, Option.some.injEq] at h
      exact h ▸ .finishSession hcall hcore timeout
    | some k =>
      simp only [hcore, Option.bind_eq_some_iff, Option.ite_none_right_eq_some, Option.some.injEq] at h
      obtain ⟨o, -, -, rfl⟩ := h
      exact .finishCore hcall hcore timeout
  | disconnect c =>
    obtain ⟨client, -, rfl⟩ := Option.map_eq_some_iff.1 h
    split
    · exact .disconnect c
    · exact .stop c _
  | free c =>
    obtain ⟨client, hclient, h⟩ := Option.bind_eq_some_iff.1 h
    exact Option.some.inj (Option.ite_none_right_eq_some.1 h).2 ▸ .free hclient
  | deliver k now input =>
    obtain ⟨o, -, h⟩ := Option.bind_eq_some_iff.1 h
    obtain rfl := Option.some.inj (Option.ite_none_right_eq_some.1 h).2
    exact .deliver k now input
  | exit k =>
    obtain ⟨o, -, h⟩ := Option.bind_eq_some_iff.1 h
    obtain rfl := Option.some.inj (Option.ite_none_right_eq_some.1 h).2
    exact .exit k

/-- Whatever a thread can deliver reaches a client that is there still. -/
def Reaches : Prop :=
  ∀ k now input, (s.step settings (.deliver k now input)).isSome = true →
    ∃ o, s.cores[k]? = some o ∧ s.Live o.parent

/-- A client that is freed has no thread that has not ended. -/
def Joined (s : Process) : Step → Prop
  | .free c => ∀ o ∈ s.cores, o.parent = c → o.thread = false
  | _ => True

/-! ## The threads -/

/-- The clients that the threads point back to. -/
def threads : List ℕ := s.cores.filterMap fun o => if o.thread then some o.parent else none

variable {settings s} {c : ℕ} {client : ClientObject}

/-- The clients that threads deliver to are the parents of the core objects whose thread runs. -/
theorem mem_threads_iff : c ∈ s.threads ↔ ∃ o ∈ s.cores, o.parent = c ∧ o.thread = true := by
  rw [threads, List.mem_filterMap]
  refine exists_congr fun o => and_congr_right fun _ => ?_
  split_ifs with h
  · simp [h]
  · simp [h]

/-- What a thread can deliver, it delivers to the client that it points back to. -/
theorem reaches_iff_threads : s.Reaches settings ↔ ∀ c ∈ s.threads, s.Live c := by
  constructor
  · intro h c hc
    obtain ⟨o, ho, rfl, hthread⟩ := mem_threads_iff.1 hc
    obtain ⟨k, hk⟩ := List.mem_iff_getElem?.1 ho
    -- A line of log can be delivered at any time.
    obtain ⟨o', hk', hlive⟩ := h k ⟨0, 0, 0, 0, 0, 0⟩ (.log []) (by
      rw [step, hk, Option.bind_some, if_pos hthread, Option.isSome_some])
    obtain rfl : o' = o := Option.some.inj (hk'.symm.trans hk)
    exact hlive
  · intro h k now input hstep
    rw [step] at hstep
    cases hk : s.cores[k]? with
    | none => simp [hk] at hstep
    | some o =>
      simp only [hk, Option.bind_some] at hstep
      split_ifs at hstep with hthread
      · exact ⟨o, rfl, h _ (mem_threads_iff.2 ⟨o, List.mem_of_getElem? hk, rfl, hthread⟩)⟩
      · cases hstep

/-- A change that keeps the parent and the thread of a core object leaves the threads as they are.
    -/
theorem threads_modifyCore {f : CoreObject → CoreObject} (hparent : ∀ o, (f o).parent = o.parent)
    (hthread : ∀ o, (f o).thread = o.thread) (k : ℕ) : (s.modifyCore k f).threads = s.threads := by
  rw [threads, threads, modifyCore]
  dsimp only
  generalize s.cores = cores
  induction cores generalizing k with
  | nil => cases k <;> rfl
  | cons o cores ih =>
    cases k with
    | zero => rw [List.modify_zero_cons, List.filterMap_cons, List.filterMap_cons, hparent, hthread]
    | succ k => rw [List.modify_succ_cons, List.filterMap_cons, List.filterMap_cons, ih]

/-- No thread is started by a change that starts none. -/
theorem mem_threads_of_modifyCore {f : CoreObject → CoreObject} {k : ℕ}
    (hf : ∀ o, (f o).parent = o.parent ∧ ((f o).thread = true → o.thread = true))
    (h : c ∈ (s.modifyCore k f).threads) : c ∈ s.threads := by
  obtain ⟨o', ho', rfl, hthread⟩ := mem_threads_iff.1 h
  obtain ⟨i, hi⟩ := List.mem_iff_getElem?.1 ho'
  rw [modifyCore, List.getElem?_modify] at hi
  obtain ⟨o, ho, rfl⟩ := Option.map_eq_some_iff.1 hi
  refine mem_threads_iff.2 ⟨o, List.mem_of_getElem? ho, ?_⟩
  split_ifs at hthread ⊢
  · exact ⟨(hf o).1.symm, (hf o).2 hthread⟩
  · exact ⟨rfl, hthread⟩

theorem threads_reset (client : ClientObject) : (s.reset client).threads = s.threads := by
  rw [reset]
  split
  · rfl
  · exact threads_modifyCore (f := ({ · with impl := false })) (fun _ => rfl) (fun _ => rfl) _

theorem threads_makeCore : (s.makeCore c client).threads = s.threads := by
  refine Eq.trans ?_ (threads_reset client)
  rw [threads, makeCore, List.filterMap_append]
  exact List.append_nil _

theorem length_reset (client : ClientObject) : (s.reset client).cores.length = s.cores.length := by
  rw [reset]
  split
  · rfl
  · exact List.length_modify ..

/-- The thread that is started delivers to the client of the call. -/
theorem threads_start {ready : CoreClient → Bool} :
    ((s.makeCore c client).start c s.cores.length ready).threads = s.threads ++ [c] := by
  have hmodify : ∀ (cores : List CoreObject) (o : CoreObject) (f : CoreObject → CoreObject),
      (cores ++ [o]).modify cores.length f = cores ++ [f o] := by
    intro cores o f
    induction cores with
    | nil => rfl
    | cons o' cores ih => rw [List.cons_append, List.length_cons, List.modify_succ_cons, ih]; rfl
  refine Eq.trans ?_ (congrArg (· ++ [c]) (threads_reset client))
  rw [threads, start, modifyCore, makeCore, ← length_reset client]
  dsimp only
  rw [hmodify, List.filterMap_append]
  rfl

/-! ## The clients -/

theorem freed_of_client? (h : s.client? c = some client) : client.freed = false := by
  rw [client?, Option.filter_eq_some_iff] at h
  simpa using h.2

/-- A client that is there still is changed. -/
theorem client?_set {s' : Process} {client' : ClientObject} (h : s.client? c = some client)
    (hs' : s'.clients = s.clients.set c client') (c' : ℕ) :
    s'.client? c' = if c' = c then (some client').filter (!·.freed) else s.client? c' := by
  rw [client?, client?, hs']
  by_cases hc : c' = c
  · subst hc
    rw [client?, Option.filter_eq_some_iff] at h
    rw [if_pos rfl, List.getElem?_set_self (List.getElem?_eq_some_iff.1 h.1).1]
  · rw [if_neg hc, List.getElem?_set_ne (Ne.symm hc)]

/-- After a client is changed, the others are there as before. -/
theorem live_set_iff {s' : Process} {client' : ClientObject} (h : s.client? c = some client)
    (hs' : s'.clients = s.clients.set c client') (c' : ℕ) :
    s'.Live c' ↔ if c' = c then client'.freed = false else s.Live c' := by
  rw [Live, client?_set h hs']
  split_ifs
  · cases hfreed : client'.freed <;> simp [Option.filter, hfreed]
  · rfl

theorem live_of_client? (h : s.client? c = some client) : s.Live c := by
  rw [Live, h, Option.isSome_some]

/-- If it is not freed, all clients are there as before. -/
theorem live_set {s' : Process} (client' : ClientObject) (h : s.client? c = some client)
    (hs' : s'.clients = s.clients.set c client') (hfreed : client'.freed = client.freed) (c' : ℕ) :
    s'.Live c' ↔ s.Live c' := by
  rw [live_set_iff h hs']
  split_ifs with hc
  · rw [hfreed, freed_of_client? h, hc]
    exact iff_of_true rfl (live_of_client? h)
  · rfl

theorem live_new (configPath : Bytes) (h : s.Live c) :
    Live { s with clients := s.clients ++ [{ configPath := configPath }] } c := by
  rw [Live, Option.isSome_iff_exists] at h ⊢
  obtain ⟨client, h⟩ := h
  rw [client?, Option.filter_eq_some_iff] at h
  refine ⟨client, ?_⟩
  rw [client?, List.getElem?_append_left (List.getElem?_eq_some_iff.1 h.1).1,
    Option.filter_eq_some_iff]
  exact h

/-! ## Steps -/

/-- All clients are kept, and every thread is an old one or points to a client that is
    there. -/
def Keeps (s s' : Process) : Prop :=
  (∀ c, s.Live c → s'.Live c) ∧ ∀ c ∈ s'.threads, c ∈ s.threads ∨ s'.Live c

/-- A step that changes no client and starts no thread. -/
theorem keeps_of_threads {s' : Process} (hclients : s'.clients = s.clients)
    (hthreads : ∀ c ∈ s'.threads, c ∈ s.threads) : s.Keeps s' := by
  refine ⟨fun c hc => ?_, fun c hc => .inl (hthreads c hc)⟩
  rw [Live, client?, hclients]
  exact hc

theorem keeps_modifyCore {f : CoreObject → CoreObject} (k : ℕ)
    (hf : ∀ o, (f o).parent = o.parent ∧ ((f o).thread = true → o.thread = true)) :
    s.Keeps (s.modifyCore k f) :=
  keeps_of_threads rfl fun _ hc => mem_threads_of_modifyCore hf hc

theorem keeps_makeCore (h : s.client? c = some client) : s.Keeps (s.makeCore c client) :=
  ⟨fun c' => (live_set { client with core := some s.cores.length } h rfl rfl c').2,
    fun _ hc' => .inl (threads_makeCore ▸ hc')⟩

/-- A phase starts a thread for a client that is there. -/
theorem keeps_start (h : s.client? c = some client) (ready : CoreClient → Bool) :
    s.Keeps ((s.makeCore c client).start c s.cores.length ready) := by
  have hlive : ∀ c', ((s.makeCore c client).start c s.cores.length ready).Live c' ↔ s.Live c' :=
    live_set { client with core := some s.cores.length } h rfl rfl
  refine ⟨fun c' => (hlive c').2, fun c' hc' => ?_⟩
  rw [threads_start, List.mem_append, List.mem_singleton] at hc'
  refine hc'.imp_right fun heq => (hlive c').2 ?_
  rw [heq]
  exact live_of_client? h

/-- Every step but one that frees a client. -/
theorem keeps_step {a : Step} {s' : Process} (ha : ∀ c, a ≠ .free c)
    (h : s.step settings a = some s') : s.Keeps s' := by
  cases takes_of_step h with
  | new configPath => exact ⟨fun c => live_new configPath, fun c hc => .inl hc⟩
  | @setConnectMode c client hclient mode =>
    exact ⟨fun c' => (live_set { client with mode := mode } hclient rfl rfl c').2,
      fun c' hc' => .inl hc'⟩
  | refuse hclient => exact keeps_makeCore hclient
  | start hclient _ ready => exact keeps_start hclient ready
  | setLogCallback | awaitSession | finishSession | disconnect =>
    exact keeps_of_threads rfl fun _ hc => hc
  | finishCore =>
    exact keeps_of_threads rfl fun _ hc =>
      mem_threads_of_modifyCore (s := s) (f := ({ · with call := false }))
        (fun _ => ⟨rfl, fun h => h⟩) hc
  | stop | deliver => exact keeps_modifyCore _ fun _ => ⟨rfl, fun h => h⟩
  | free => exact absurd rfl (ha _)
  | exit => exact keeps_modifyCore _ fun _ => ⟨rfl, fun h => by cases h⟩

/-- A client is freed. -/
theorem step_free {s' : Process} (h : s.step settings (.free c) = some s') :
    s'.threads = s.threads ∧ ∀ c', s'.Live c' ↔ c' ≠ c ∧ s.Live c' := by
  obtain ⟨client, hclient, h⟩ := Option.bind_eq_some_iff.1 h
  split_ifs at h
  obtain rfl := Option.some.inj h
  refine ⟨threads_reset client, fun c' => ?_⟩
  rw [live_set_iff hclient rfl]
  by_cases hc : c' = c
  · simp [hc]
  · simp [hc]

/-- What a thread can deliver reaches clients that are there still, after a step exactly
    if the step does not free a client with a thread. -/
theorem reaches_step_iff {a : Step} {s' : Process} (hs : s.Reaches settings)
    (h : s.step settings a = some s') : s'.Reaches settings ↔ s.Joined a := by
  rw [reaches_iff_threads] at hs ⊢
  -- A step that frees no client takes none away, and starts threads at clients that are there.
  by_cases ha : ∃ c, a = .free c
  · obtain ⟨c, rfl⟩ := ha
    obtain ⟨hthreads, hlive⟩ := step_free h
    rw [hthreads, Joined]
    constructor
    · intro hs' o ho hparent
      by_contra hthread
      exact ((hlive c).1 (hs' c (mem_threads_iff.2 ⟨o, ho, hparent, by simpa using hthread⟩))).1 rfl
    · intro hjoined c' hc'
      refine (hlive c').2 ⟨?_, hs c' hc'⟩
      rintro rfl
      obtain ⟨o, ho, hparent, hthread⟩ := mem_threads_iff.1 hc'
      rw [hjoined o ho hparent] at hthread
      cases hthread
  · rw [not_exists] at ha
    obtain ⟨hlive, hthreads⟩ := keeps_step ha h
    refine iff_of_true (fun c hc => (hthreads c hc).elim (fun hc => hlive c (hs c hc)) id) ?_
    cases a with
    | free c => exact absurd rfl (ha c)
    | _ => trivial

/-- In all states that a run reaches, what a thread can deliver reaches a client that is
    there still, exactly if every client is freed when all its threads have ended. -/
theorem reaches_iff (settings : Settings) (steps : List Step) :
    (∀ pre, pre <+: steps → ∀ s : Process,
        Runs.run (step settings) {} pre = some s → s.Reaches settings) ↔
      Runs.Along (step settings) Joined {} steps :=
  Runs.reached_iff reaches_step_iff (reaches_iff_threads.2 fun _ hc => absurd hc List.not_mem_nil)

/-! ## The shares -/

/-- Whoever uses a core object has a share in it: its client as long as it is there, and
    the call that waits for it, of which there is one. -/
structure Shared (s : Process) : Prop where
  impl : ∀ c client k, s.client? c = some client → client.core = some k →
    ∃ o, s.cores[k]? = some o ∧ o.parent = c ∧ o.impl = true
  call : ∀ k ∈ s.calls.filterMap PhaseCall.core, ∃ o, s.cores[k]? = some o ∧ o.call = true
  nodup : (s.calls.filterMap PhaseCall.core).Nodup

/-- The other core objects are as before. -/
theorem getElem?_modifyCore (k i : ℕ) (f : CoreObject → CoreObject) :
    (s.modifyCore k f).cores[i]? = s.cores[i]?.map fun o => if k = i then f o else o := by
  rw [modifyCore, List.getElem?_modify]
  cases s.cores[i]? with
  | none => rfl
  | some o => split_ifs <;> rfl

/-- What a change keeps of every core object holds of the one at an index still. -/
theorem exists_modifyCore {P : CoreObject → Prop} {f : CoreObject → CoreObject}
    (hf : ∀ o, P o → P (f o)) (k : ℕ) {i : ℕ} (h : ∃ o, s.cores[i]? = some o ∧ P o) :
    ∃ o, (s.modifyCore k f).cores[i]? = some o ∧ P o := by
  obtain ⟨o, ho, hP⟩ := h
  refine ⟨_, by rw [getElem?_modifyCore, ho, Option.map_some], ?_⟩
  split_ifs
  · exact hf o hP
  · exact hP

/-- A change that keeps the shares. -/
theorem Shared.modifyCore (h : s.Shared) {f : CoreObject → CoreObject} (k : ℕ)
    (hparent : ∀ o, (f o).parent = o.parent) (himpl : ∀ o, (f o).impl = o.impl)
    (hcall : ∀ o, (f o).call = o.call) : (s.modifyCore k f).Shared := by
  refine ⟨fun c client i hclient hcore => ?_, fun i hi => ?_, h.nodup⟩
  · refine exists_modifyCore (fun o ho => ?_) k (h.impl c client i hclient hcore)
    exact ⟨(hparent o).trans ho.1, (himpl o).trans ho.2⟩
  · exact exists_modifyCore (fun o ho => (hcall o).trans ho) k (h.call i hi)

/-- A client that gives up its share is no more, or points to another core object. -/
theorem Shared.reset (h : s.Shared) (hclient : s.client? c = some client) :
    (∀ c' ≠ c, ∀ client' k, s.client? c' = some client' → client'.core = some k →
      ∃ o, (s.reset client).cores[k]? = some o ∧ o.parent = c' ∧ o.impl = true) ∧
    ∀ k ∈ s.calls.filterMap PhaseCall.core,
      ∃ o, (s.reset client).cores[k]? = some o ∧ o.call = true := by
  rw [Process.reset]
  split
  · next => exact ⟨fun c' _ client' k => h.impl c' client' k, h.call⟩
  · next i hi =>
    obtain ⟨o₀, ho₀, hparent, -⟩ := h.impl c client i hclient hi
    refine ⟨fun c' hc client' k hclient' hcore => ?_, fun k hk => ?_⟩
    · obtain ⟨o, ho, hop, hoi⟩ := h.impl c' client' k hclient' hcore
      -- The core objects of two clients are not the same.
      have hne : i ≠ k := by
        rintro rfl
        obtain rfl : o₀ = o := Option.some.inj (ho₀.symm.trans ho)
        exact hc (hop.symm.trans hparent)
      exact ⟨o, by rw [getElem?_modifyCore, ho, Option.map_some, if_neg hne], hop, hoi⟩
    · exact exists_modifyCore (f := ({ · with impl := false })) (fun _ ho => ho) i (h.call k hk)

/-- The core object that a phase makes is shared by its client. -/
theorem Shared.makeCore (h : s.Shared) (hclient : s.client? c = some client) :
    (s.makeCore c client).Shared := by
  obtain ⟨himpl, hcall⟩ := h.reset hclient
  have hold : ∀ {k o}, (s.reset client).cores[k]? = some o →
      (s.makeCore c client).cores[k]? = some o := fun ho => by
    rw [Process.makeCore, List.getElem?_append_left (List.getElem?_eq_some_iff.1 ho).1, ho]
  refine ⟨fun c' client' k hclient' hcore => ?_, fun k hk => ?_, h.nodup⟩
  · rw [client?_set hclient rfl] at hclient'
    split_ifs at hclient' with hc
    · rw [Option.filter_eq_some_iff] at hclient'
      obtain rfl := Option.some.inj hclient'.1
      obtain rfl := Option.some.inj hcore
      refine ⟨{ parent := c }, ?_, hc.symm, rfl⟩
      rw [Process.makeCore, ← length_reset client]
      exact List.getElem?_concat_length
    · obtain ⟨o, ho, hop⟩ := himpl c' hc client' k hclient' hcore
      exact ⟨o, hold ho, hop⟩
  · obtain ⟨o, ho, hoc⟩ := hcall k hk
    exact ⟨o, hold ho, hoc⟩

/-- While the call waits, the core object is shared by the call and the thread as well. -/
theorem Shared.start (h : s.Shared) (hclient : s.client? c = some client)
    (ready : CoreClient → Bool) :
    ((s.makeCore c client).start c s.cores.length ready).Shared := by
  have hmade := h.makeCore hclient
  refine ⟨fun c' client' k hclient' hcore => ?_, fun k hk => ?_, ?_⟩
  · exact exists_modifyCore (f := ({ · with call := true, thread := true })) (fun _ ho => ho) _
      (hmade.impl c' client' k hclient' hcore)
  · rw [Process.start, List.filterMap_append, List.mem_append] at hk
    rcases hk with hk | hk
    · exact exists_modifyCore (f := ({ · with call := true, thread := true }))
        (P := (·.call = true)) (fun _ _ => rfl) _ (hmade.call k hk)
    · obtain rfl : k = s.cores.length := List.mem_singleton.1 hk
      obtain ⟨o, ho, -⟩ := hmade.impl c _ s.cores.length
        (by rw [client?_set hclient rfl, if_pos rfl]; exact Option.filter_eq_some_iff.2 ⟨rfl, by
          simp [freed_of_client? hclient]⟩) rfl
      exact ⟨_, by rw [Process.start, getElem?_modifyCore, ho, Option.map_some], by rw [if_pos rfl]⟩
  · rw [Process.start, List.filterMap_append, List.nodup_append]
    refine ⟨h.nodup, List.nodup_singleton _, ?_⟩
    rintro k hk k' hk' rfl
    -- The calls before wait for core objects that were there before.
    obtain rfl : k = s.cores.length := List.mem_singleton.1 hk'
    obtain ⟨o, ho, -⟩ := h.call _ hk
    exact absurd (List.getElem?_eq_some_iff.1 ho).1 (lt_irrefl _)

/-- A call that waits for the session has no share in a core object. -/
theorem Shared.awaitSession (h : s.Shared) (ready : CoreClient → Bool) :
    Shared { s with calls := s.calls ++ [⟨c, none, ready⟩] } := by
  have hcalls : (s.calls ++ [(⟨c, none, ready⟩ : PhaseCall)]).filterMap PhaseCall.core =
      s.calls.filterMap PhaseCall.core := by
    rw [List.filterMap_append]
    exact List.append_nil _
  exact ⟨h.impl, fun k hk => h.call k (hcalls ▸ hk), hcalls ▸ h.nodup⟩

/-- A call that returns leaves the shares of the others. -/
theorem Shared.finishSession (h : s.Shared) (i : ℕ) :
    Shared { s with calls := s.calls.eraseIdx i } := by
  have hsub := (List.eraseIdx_sublist s.calls i).filterMap PhaseCall.core
  exact ⟨h.impl, fun k hk => h.call k (hsub.subset hk), h.nodup.sublist hsub⟩

/-- A call that returns gives up its share, and was the only one to have it. -/
theorem Shared.finishCore (h : s.Shared) {i k : ℕ} {call : PhaseCall}
    (hcall : s.calls[i]? = some call) (hcore : call.core = some k) :
    (Process.modifyCore { s with calls := s.calls.eraseIdx i } k
      ({ · with call := false })).Shared := by
  have hfinish := h.finishSession i
  refine ⟨fun c client j hclient hcore => ?_, fun j hj => ?_, hfinish.nodup⟩
  · exact exists_modifyCore (f := ({ · with call := false })) (fun _ ho => ho) k
      (h.impl c client j hclient hcore)
  · have hne : k ≠ j := by
      rintro rfl
      obtain ⟨hi, rfl⟩ := List.getElem?_eq_some_iff.1 hcall
      have hnodup := h.nodup
      rw [← List.take_append_drop i s.calls, List.drop_eq_getElem_cons hi, List.filterMap_append,
        List.filterMap_cons_some hcore] at hnodup
      have hnotMem := (List.nodup_middle.1 hnodup).notMem
      rw [← List.filterMap_append, ← List.eraseIdx_eq_take_drop_succ] at hnotMem
      exact hnotMem hj
    obtain ⟨o, ho, hoc⟩ := hfinish.call j hj
    exact ⟨o, by rw [getElem?_modifyCore, ho, Option.map_some, if_neg hne], hoc⟩

/-- A new client points to no core object. -/
theorem Shared.new (h : s.Shared) (configPath : Bytes) :
    Shared { s with clients := s.clients ++ [{ configPath }] } := by
  refine ⟨fun c client k hclient hcore => ?_, h.call, h.nodup⟩
  rw [client?, List.getElem?_append] at hclient
  split_ifs at hclient with hc
  · exact h.impl c client k hclient hcore
  · have hmem := List.mem_of_getElem? (Option.filter_eq_some_iff.1 hclient).1
    rw [List.mem_singleton.1 hmem] at hcore
    cases hcore

/-- When a client is freed, the other clients and the calls keep their shares. -/
theorem Shared.free (h : s.Shared) (hclient : s.client? c = some client) :
    Shared { s.reset client with clients := s.clients.set c { client with freed := true } } := by
  obtain ⟨himpl, hcall⟩ := h.reset hclient
  have hcalls : (s.reset client).calls = s.calls := by
    rw [Process.reset]
    split <;> rfl
  refine ⟨fun c' client' k hclient' hcore => ?_, fun k hk => ?_, ?_⟩
  · rw [client?_set hclient rfl] at hclient'
    split_ifs at hclient' with hc
    · cases hclient'
    · exact himpl c' hc client' k hclient' hcore
  · dsimp only at hk
    rw [hcalls] at hk
    exact hcall k hk
  · dsimp only
    rw [hcalls]
    exact h.nodup

/-- The mode is no share. -/
theorem Shared.setConnectMode (h : s.Shared) (hclient : s.client? c = some client)
    (mode : ConnectMode) :
    Shared { s with clients := s.clients.set c { client with mode := mode } } := by
  refine ⟨fun c' client' k hclient' hcore => ?_, h.call, h.nodup⟩
  rw [client?_set hclient rfl] at hclient'
  split_ifs at hclient' with hc
  · rw [Option.filter_eq_some_iff] at hclient'
    obtain rfl := Option.some.inj hclient'.1
    exact hc ▸ h.impl c client k hclient hcore
  · exact h.impl c' client' k hclient' hcore

/-- Every step keeps the shares. -/
theorem Shared.step (h : s.Shared) {a : Step} {s' : Process} (hstep : s.step settings a = some s') :
    s'.Shared := by
  cases takes_of_step hstep with
  | new configPath => exact h.new configPath
  | setLogCallback | disconnect => exact h
  | setConnectMode hclient mode => exact h.setConnectMode hclient mode
  | refuse hclient => exact h.makeCore hclient
  | start hclient _ ready => exact h.start hclient ready
  | awaitSession => exact h.awaitSession _
  | finishSession => exact h.finishSession _
  | finishCore hcall hcore => exact h.finishCore hcall hcore
  | free hclient => exact h.free hclient
  | stop | deliver | exit => exact h.modifyCore _ (fun _ => rfl) (fun _ => rfl) fun _ => rfl

/-- In all states that a run reaches, the core object of a client and that of a call are
    there. -/
theorem shared_of_run {steps : List Step} (h : Runs.run (step settings) {} steps = some s) :
    s.Shared := by
  have hinit : Shared {} :=
    ⟨fun c client k hclient => by simp [client?] at hclient, fun k hk => absurd hk List.not_mem_nil,
      List.nodup_nil⟩
  exact Runs.reached (fun hs hstep => Shared.step hs hstep) hinit h

/-- Phase 1 times out, the core is asked to stop, and the client is freed. -/
def timedOut : List Step :=
  [.new (lit "work.ovpn"), .connectPhase1 0 (some (lit "client\n")) none, .finish 0 true,
    .disconnect 0, .free 0]

/-- The next event of the thread reaches a client that was freed. -/
theorem not_reaches :
    let settings : Settings := { clock := fun _ => ⟨2024, 5, 17, 9, 30, 0⟩ }
    ∃ s : Process, Runs.run (step settings) {} timedOut = some s ∧
      (s.step settings (.deliver 0 ⟨2024, 5, 17, 9, 30, 31⟩
        (.event ⟨lit "DISCONNECTED", []⟩))).isSome = true ∧
      s.cores.map CoreObject.parent = [0] ∧ ¬s.Live 0 ∧ ¬s.Reaches settings := by
  intro settings
  refine ⟨_, rfl, by decide, by decide, by decide, fun h => ?_⟩
  exact absurd (reaches_iff_threads.1 h 0 (by decide)) (by decide)

end Process

end OpenLawsVpn
