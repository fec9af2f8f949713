import OpenLawsVpn.DBus.Received
import OpenLawsVpn.DBus.Steps
import OpenLawsVpn.Lib.Batch

/-!
# Timing

The wait loop handles the signals that have arrived in a batch, all of them, and
then looks at two flags. A signal may set `connected`, and, depending on that flag,
`failed` (`Flags.step`); the attempt returns if it is connected and not failed.

A failure may come after a connection. When it is in the same batch, the attempt
throws; when it arrives a moment later, the attempt has returned. So the outcome
does not depend on the timing exactly if no signal after the one that connects
first counts as a failure of a connected client (`endsAlike_iff`).

* `Flags.step`: the two flags after a signal;
* `Steadfast`: no signal counts as a failure after the first that connects;
* `endsAlike_iff`: the criterion, for all signals and all ways to cut them;
* `returns_of_later`: two signals that throw together, and return one by one.
-/

namespace OpenLawsVpn

open Wp

/-! ## Flags -/

/-- The signal is taken for a connection. -/
def Signal.Connects (s : Signal) : Prop := (DBusAction.signal s).SetsConnected

/-- The signal counts as a failure, when the client is `connected` or not. -/
def Signal.Fails (connected : Bool) (s : Signal) : Prop :=
  ((DBusAction.signal s).failure connected).isSome

instance (s : Signal) : Decidable s.Connects :=
  inferInstanceAs (Decidable (DBusAction.signal s).SetsConnected)

instance (connected : Bool) (s : Signal) : Decidable (s.Fails connected) :=
  inferInstanceAs (Decidable (((DBusAction.signal s).failure connected).isSome = true))

/-- The signal decides an attempt which has not been decided. -/
def Signal.Decides (s : Signal) : Prop := s.Connects ∨ s.Fails false

/-- A signal fails exactly if its status does. -/
theorem Signal.fails_iff {s : Signal} {connected : Bool} :
    s.Fails connected ↔ ∃ st, s.status = some st ∧ st.Fails connected := by
  rw [Fails, DBusAction.failure]
  cases s.status with
  | none => simp
  | some st => by_cases h : st.Fails connected <;> simp [h]

/-- A failure is not taken for a connection. -/
theorem Signal.not_connects_of_fails {s : Signal} {connected : Bool} (h : s.Fails connected) :
    ¬s.Connects := by
  obtain ⟨st, hst, h⟩ := fails_iff.1 h
  rintro (⟨st', hst', hmajor, hconnected⟩ | ⟨m, hm, -⟩ | ⟨host, hhost, -⟩)
  · obtain rfl := Option.some.inj (hst.symm.trans hst')
    rcases h with ⟨-, hnot, -⟩ | ⟨hmajor', -⟩
    · exact hnot hconnected
    · rw [hmajor] at hmajor'
      exact absurd hmajor' (by decide)
  · rw [DBusAction.logMessage, s.logMessage_of_status hst] at hm
    cases hm
  · cases hhost

/-- The flags that the wait looks at. -/
structure Flags where
  connected : Bool := false
  failed : Bool := false

namespace Flags

/-- The flags after a signal. -/
def step (f : Flags) (s : Signal) : Flags :=
  ⟨f.connected || decide s.Connects, f.failed || decide (s.Fails f.connected)⟩

/-- The wait is decided by either flag. -/
def decided (f : Flags) : Bool := f.connected || f.failed

variable {f : Flags} {signals : List Signal}

theorem step_of_not_decides {s : Signal} (h : ¬s.Decides) : step {} s = {} := by
  rw [Signal.Decides, not_or] at h
  rw [step, decide_eq_false h.1, decide_eq_false h.2]
  rfl

theorem step_of_connects {s : Signal} (h : s.Connects) : step {} s = ⟨true, false⟩ := by
  rw [step, decide_eq_true h, decide_eq_false fun hfails => Signal.not_connects_of_fails hfails h]
  rfl

/-- A connected client is failed by the failures of a connected client. -/
theorem failed_foldl_of_connected (h : f.connected = true) :
    (signals.foldl step f).failed = true ↔ f.failed = true ∨ ∃ s ∈ signals, s.Fails true := by
  induction signals generalizing f with
  | nil => simp
  | cons s signals ih =>
    have hconnected : (step f s).connected = true := by rw [step, h, Bool.true_or]
    rw [List.foldl_cons, ih hconnected, step, h]
    simp [or_assoc]

theorem failed_foldl (h : f.failed = true) : (signals.foldl step f).failed = true := by
  induction signals generalizing f with
  | nil => exact h
  | cons s signals ih => exact ih (by rw [step, h, Bool.true_or])

theorem connected_foldl (h : f.connected = true) : (signals.foldl step f).connected = true := by
  induction signals generalizing f with
  | nil => exact h
  | cons s signals ih => exact ih (by rw [step, h, Bool.true_or])

/-- A signal that decides has the wait decided. -/
theorem decided_foldl (h : ∃ s ∈ signals, s.Decides) : (signals.foldl step {}).decided = true := by
  induction signals with
  | nil => simp at h
  | cons s signals ih =>
    rw [List.foldl_cons]
    by_cases hs : s.Decides
    · rcases hs with hconnects | hfails
      · rw [decided, connected_foldl (by rw [step_of_connects hconnects]), Bool.true_or]
      · rw [decided, failed_foldl (by rw [step, decide_eq_true hfails, Bool.or_true]), Bool.or_true]
    · rw [step_of_not_decides hs]
      obtain ⟨t, ht, hdecides⟩ := h
      rcases List.mem_cons.1 ht with rfl | ht
      · exact absurd hdecides hs
      · exact ih ⟨t, ht, hdecides⟩

end Flags

/-- After the first signal that decides, if it connects, no signal is a failure of a
    connected client. -/
def Steadfast : List Signal → Prop
  | [] => True
  | s :: signals =>
    if s.Connects then ∀ t ∈ signals, ¬t.Fails true
    else if s.Fails false then True
    else Steadfast signals

/-- The client is failed after all prefixes that have decided, or after none. -/
def Flags.Agrees (f : Flags) (signals : List Signal) : Prop :=
  ∀ l l', l <+: signals → l' <+: signals → (l.foldl step f).decided = true →
    (l'.foldl step f).decided = true → ((l.foldl step f).failed = false ↔ (l'.foldl step f).failed = false)

/-- Without signals, nothing is decided. -/
theorem Flags.agrees_cons_iff {s : Signal} {signals : List Signal} :
    Agrees {} (s :: signals) ↔ Agrees (step {} s) signals := by
  constructor
  · exact fun h l l' hl hl' => h (s :: l) (s :: l') (List.cons_prefix_cons.2 ⟨rfl, hl⟩)
      (List.cons_prefix_cons.2 ⟨rfl, hl'⟩)
  · intro h l l' hl hl' hdecided hdecided'
    rcases List.prefix_cons_iff.1 hl with rfl | ⟨r, rfl, hr⟩
    · cases hdecided
    rcases List.prefix_cons_iff.1 hl' with rfl | ⟨r', rfl, hr'⟩
    · cases hdecided'
    exact h r r' hr hr' hdecided hdecided'

/-- The flags agree exactly if no failure comes after a connection. -/
theorem Flags.steadfast_iff (signals : List Signal) : Agrees {} signals ↔ Steadfast signals := by
  induction signals with
  | nil =>
    refine iff_of_true (fun l l' hl _ hdecided => ?_) trivial
    rw [List.prefix_nil.1 hl] at hdecided
    cases hdecided
  | cons s signals ih =>
    rw [agrees_cons_iff, Steadfast]
    split_ifs with hconnects hfails
    · -- All prefixes have decided, and the empty one has not failed.
      rw [step_of_connects hconnects]
      have hdecided : ∀ l : List Signal, (l.foldl step ⟨true, false⟩).decided = true := fun l => by
        rw [decided, connected_foldl rfl, Bool.true_or]
      have hfailed : ∀ l : List Signal, (l.foldl step ⟨true, false⟩).failed = false ↔
          ∀ t ∈ l, ¬t.Fails true := fun l => by
        rw [← Bool.not_eq_true, failed_foldl_of_connected rfl]
        simp
      constructor
      · intro h
        rw [← hfailed]
        exact (h [] signals List.nil_prefix List.prefix_rfl (hdecided []) (hdecided signals)).1 rfl
      · intro h l l' hl hl' _ _
        rw [hfailed, hfailed]
        exact iff_of_true (fun t ht => h t (hl.subset ht)) fun t ht => h t (hl'.subset ht)
    · -- A failure stays.
      refine iff_of_true (fun l l' _ _ _ _ => ?_) trivial
      have hfailed : (step {} s).failed = true := by rw [step, decide_eq_true hfails, Bool.or_true]
      rw [failed_foldl hfailed, failed_foldl hfailed]
    · rw [step_of_not_decides (not_or.2 ⟨hconnects, hfails⟩)]
      exact ih

namespace DBusClient

variable {env : Environment} {c : DBusClient}

/-- The flags of a client. -/
def flags (c : DBusClient) : Flags := ⟨c.connected, c.failed⟩

/-- A client has failed if there is a failure. -/
theorem failed_eq_isSome_failure (c : DBusClient) : c.failed = c.failure.isSome := by
  rw [failure]
  cases c.failed <;> rfl

/-- A signal is one step of the flags. -/
theorem flags_signal (clock : ℕ → Stamp) (s : Signal) (c : DBusClient) :
    (onStatusChange clock s (c.push (.signal s))).flags = c.flags.step s := by
  have hfailed : (onStatusChange clock s (c.push (.signal s))).failed =
      (c.failed || decide (s.Fails c.connected)) := by
    rw [failed_eq_isSome_failure, failure_onStatusChange, Option.isSome_or, Bool.or_comm,
      failed_eq_isSome_failure c]
    congr 1
    rw [Bool.eq_iff_iff, decide_eq_true_iff]
    rfl
  rw [flags, connected_signal, hfailed]
  rfl

theorem flags_dispatch (clock : ℕ → Stamp) (signals : List Signal) (c : DBusClient) :
    (c.dispatch clock signals).flags = signals.foldl Flags.step c.flags := by
  rw [dispatch]
  induction signals generalizing c with
  | nil => rfl
  | cons s signals ih => rw [List.foldl_cons, List.foldl_cons, ih, flags_signal]

/-! ## The wait loop -/

/-- The loop, with an iteration for each batch of signals, without information from
    the polls. -/
theorem wp_waitLoop_batches (batches : List (List Signal)) (hc : c.flags.decided = false) :
    wp (waitLoop env (batches.map fun batch => { signals := batch }))
      (fun _ c' => c'.flags = Batch.untilDecided Flags.step Flags.decided c.flags batches ∧
        c'.flags.decided = true)
      (fun e _ => e = .waiting ∧
        (Batch.untilDecided Flags.step Flags.decided c.flags batches).decided = false) c := by
  induction batches generalizing c with
  | nil => exact ⟨rfl, hc⟩
  | cons batch batches ih =>
    rw [List.map_cons, waitLoop, wp_bind, wp_modify, wp_bind, wp_get, wp_ite, Batch.untilDecided,
      ← flags_dispatch env.clock]
    dsimp only
    by_cases hdecided : (c.dispatch env.clock batch).decided = true
    · rw [if_pos hdecided,
        if_pos (show (c.dispatch env.clock batch).flags.decided = true from hdecided)]
      exact ⟨rfl, hdecided⟩
    · rw [if_neg hdecided,
        if_neg (show ¬(c.dispatch env.clock batch).flags.decided = true from hdecided)]
      exact ih (c := ((c.dispatch env.clock batch).push _).push _)
        (Bool.eq_false_of_not_eq_true hdecided)

/-- The result: the attempt returns unless the client is failed. -/
theorem wp_finish_flags (hsignals : env.decidedSignals = []) :
    wp (finish env) (fun _ _ => c.flags.failed = false)
      (fun e _ => (∃ what, e = .threw what) ∧ c.flags.failed = true) c := by
  simp only [finish, hsignals, wp_bind, wp_get, wp_modify, wp_ite]
  by_cases hfailed : c.failed = true
  · rw [if_pos (show (c.dispatch env.clock []).failed = true from hfailed)]
    exact wp_mono ((steady_true env [] []).wp_cleanUp trivial) (fun _ _ _ => ⟨⟨_, rfl⟩, hfailed⟩)
      fun _ _ h => h.elim
  · rw [if_neg (show ¬(c.dispatch env.clock []).failed = true from hfailed)]
    exact Bool.eq_false_of_not_eq_true hfailed

end DBusClient

/-! ## Outcomes -/

/-- The environment in which the signals arrive during the wait only, in these
    batches, and the polls give no information. -/
def Environment.withBatches (env : Environment) (batches : List (List Signal)) : Environment :=
  { env with
    logForwardSignals := []
    connectSignals := []
    waits := batches.map fun batch => { signals := batch }
    decidedSignals := []
    returnSignals := []
    disconnectSignals := [] }

namespace DBusClient

/-- Before the subscription, no flag is set. -/
theorem kept_flags (env : Environment) : Kept (env.withBatches []) (fun c => c.flags = {}) where
  stdout _ _ h := h
  call _ _ _ h := h
  timedOut _ h := h
  configPath _ _ h := h
  announcement _ _ _ h := h
  signal _ s hs := by simp [Environment.withBatches, Environment.signals] at hs
  polledStatus _ _ w hw := by cases hw
  polledConnectedTo _ _ w hw := by cases hw

/-- The session is set up without a flag. -/
theorem wp_setUp (env : Environment) (batches : List (List Signal))
    (config stateId token remoteIp : Bytes) (hc : c.flags = {}) :
    wp (setUp (env.withBatches batches) config stateId token remoteIp) (fun _ c => c.flags = {})
      (fun _ _ => ¬(CreatesSession env ∧ Starts env)) c := by
  change wp (setUp (env.withBatches []) config stateId token remoteIp) _ _ c
  have hkept := kept_flags env
  simp only [setUp, wp_bind]
  refine wp_mono (hkept.wp_noteRemoteIp hc remoteIp) (fun _ c h => ?_) fun _ _ h => h.elim
  refine wp_mono (hkept.wp_importConfig h _) (fun _ c h => ?_) fun _ _ h hc => h.2.2 hc.1.2.1
  refine wp_mono (hkept.wp_newTunnel hkept (fun _ _ h => h) h.1) (fun _ c h => ?_)
    fun _ _ h hc => h.2.2 hc.1.2.2
  refine wp_mono (hkept.wp_awaitSession h.1) (fun _ c h => ?_) fun _ _ h hc => h.2.2 hc.2.1
  refine wp_mono (hkept.wp_awaitReady h.1 _) (fun _ c h => ?_) fun _ _ h hc => h.2.2 hc.2.2.1
  exact wp_mono (hkept.wp_startConnect h.1) (fun _ c h => h.1.1) fun _ _ h hc => h.2.2 hc.2.2.2

/-- An attempt ends as the flags tell when its wait ends. -/
theorem wp_connect_batches (hcreates : CreatesSession env) (hstarts : Starts env)
    {batches : List (List Signal)} (hdecides : ∃ s ∈ batches.flatten, s.Decides)
    (configFile stateId token remoteIp : Bytes) (hc : c.flags = {}) :
    wp (connect (env.withBatches batches) configFile stateId token remoteIp)
      (fun _ _ => (Batch.untilDecided Flags.step Flags.decided {} batches).failed = false)
      (fun e _ => (∃ what, e = .threw what) ∧
        (Batch.untilDecided Flags.step Flags.decided {} batches).failed = true) c := by
  obtain ⟨content, hfile⟩ := Option.isSome_iff_exists.1 hcreates.1
  have hdecided := Batch.decided_untilDecided (Flags.decided_foldl hdecides)
  have hconfig : readAndFilterConfig configFile (env.withBatches batches).file = .ok _ :=
    congrArg (readAndFilterConfig configFile) hfile
  rw [connect_eq hconfig, wp_bind]
  refine wp_mono (wp_setUp env batches _ stateId token remoteIp hc) (fun _ c hflags => ?_)
    fun _ _ hnot => absurd ⟨hcreates, hstarts⟩ hnot
  rw [wp_bind]
  refine wp_mono (wp_waitLoop_batches batches (by rw [hflags]; rfl)) (fun _ c h => ?_) fun _ _ h => ?_
  · obtain ⟨hend, -⟩ := h
    rw [hflags] at hend
    rw [← hend]
    exact wp_finish_flags rfl
  · obtain ⟨-, hnot⟩ := h
    rw [hflags, hdecided] at hnot
    cases hnot

/-- The run returns. -/
def Returns (r : EStateM.Result Stop DBusClient Unit) : Prop := ∃ c, r = .ok () c

/-- The run throws. -/
def Throws (r : EStateM.Result Stop DBusClient Unit) : Prop := ∃ what c, r = .error (.threw what) c

/-- Both attempts return, or both throw. -/
def EndsAlike (r r' : EStateM.Result Stop DBusClient Unit) : Prop :=
  Returns r ∧ Returns r' ∨ Throws r ∧ Throws r'

/-- The outcome of the wait does not depend on how the signals are cut into batches,
    exactly if they are steadfast. -/
theorem endsAlike_iff (env : Environment) (hcreates : CreatesSession env) (hstarts : Starts env)
    (configFile stateId token remoteIp : Bytes) (level : ℤ) (signals : List Signal)
    (hdecides : ∃ s ∈ signals, s.Decides) :
    (∀ b b' : List (List Signal), b.flatten = signals → b'.flatten = signals →
        EndsAlike
          (connect (env.withBatches b) configFile stateId token remoteIp { logLevel := level })
          (connect (env.withBatches b') configFile stateId token remoteIp { logLevel := level })) ↔
      Steadfast signals := by
  -- How an attempt ends is the flag in which the batches result.
  have houtcome : ∀ b : List (List Signal), b.flatten = signals → ∀ r,
      connect (env.withBatches b) configFile stateId token remoteIp { logLevel := level } = r →
        Returns r ∧ (Batch.untilDecided Flags.step Flags.decided {} b).failed = false ∨
          Throws r ∧ (Batch.untilDecided Flags.step Flags.decided {} b).failed = true := by
    rintro b rfl r hr
    have hwp := wp_connect_batches (c := { logLevel := level }) hcreates hstarts hdecides configFile
      stateId token remoteIp rfl
    cases r with
    | ok a c => exact .inl ⟨⟨c, rfl⟩, post_of_wp hwp hr⟩
    | error e c =>
      obtain ⟨⟨what, rfl⟩, hfailed⟩ := exn_of_wp hwp hr
      exact .inr ⟨⟨what, c, rfl⟩, hfailed⟩
  -- No attempt ends both ways.
  have hnot : ∀ r, Returns r → ¬Throws r := by
    rintro r ⟨c, rfl⟩ ⟨what, c', h⟩
    cases h
  rw [← Flags.steadfast_iff, Flags.Agrees, ← Batch.agree_iff (Flags.decided_foldl hdecides)
    (Q := fun f : Flags => f.failed = false)]
  refine forall₄_congr fun b b' hb hb' => ?_
  rcases houtcome b hb _ rfl with ⟨hr, hf⟩ | ⟨hr, hf⟩ <;>
    rcases houtcome b' hb' _ rfl with ⟨hr', hf'⟩ | ⟨hr', hf'⟩ <;> rw [hf, hf']
  · exact iff_of_true (.inl ⟨hr, hr'⟩) Iff.rfl
  · refine iff_of_false ?_ (by simp)
    rintro (h | h)
    · exact hnot _ h.2 hr'
    · exact hnot _ hr h.1
  · refine iff_of_false ?_ (by simp)
    rintro (h | h)
    · exact hnot _ h.1 hr
    · exact hnot _ hr' h.2
  · exact iff_of_true (.inr ⟨hr, hr'⟩) Iff.rfl

/-! ### A failure after a connection -/

/-- The status of a connection. -/
def connectedSignal : Signal := .ofStatus ⟨2, 101, .empty⟩

/-- The status of a failure, which also counts for a connected client. -/
def failedSignal : Signal := .ofStatus ⟨2, 104, .empty⟩

/-- A failure comes first: the attempt throws, whatever follows. -/
theorem endsAlike_of_failed :
    let attempt (b : List (List Signal)) := connect (setsUp.withBatches b) (lit "vpn.ovpn")
      (lit "sid") (lit "dG9rZW4=") [] { logLevel := 1 }
    EndsAlike (attempt [[failedSignal, connectedSignal]])
      (attempt [[failedSignal], [connectedSignal]]) :=
  (endsAlike_iff setsUp setsUp_creates setsUp_starts (lit "vpn.ovpn") (lit "sid") (lit "dG9rZW4=") [] 1
    [failedSignal, connectedSignal] ⟨failedSignal, by decide, .inr (by decide)⟩).2 (by
      rw [Steadfast, if_neg (by decide), if_pos (by decide)]
      trivial) _ _ rfl rfl

/-- A failure after a connection: the attempt throws if both arrive together, and
    returns if the failure arrives later. -/
theorem returns_of_later :
    let attempt (b : List (List Signal)) := connect (setsUp.withBatches b) (lit "vpn.ovpn")
      (lit "sid") (lit "dG9rZW4=") [] { logLevel := 1 }
    Throws (attempt [[connectedSignal, failedSignal]]) ∧
      Returns (attempt [[connectedSignal], [failedSignal]]) ∧
      ¬EndsAlike (attempt [[connectedSignal, failedSignal]])
        (attempt [[connectedSignal], [failedSignal]]) := by
  refine ⟨⟨_, _, rfl⟩, ⟨_, rfl⟩, ?_⟩
  rintro (⟨⟨c, h⟩, -⟩ | ⟨-, what, c, h⟩)
  · cases h
  · cases h

end DBusClient

end OpenLawsVpn
