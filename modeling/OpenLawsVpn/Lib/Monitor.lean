import Mathlib.Logic.Function.Basic
import OpenLawsVpn.Lib.Runs

/-!
# Monitors

A state is guarded by a mutex and a condition variable. Some threads wait for a condition:
with the mutex, a waiter finds that the condition holds and leaves, or falls asleep; it wakes
up when it is notified, for no reason, or after a timeout, and looks again. Other threads
update the state by events (`Discipline`): a part of an event may come before the mutex is
taken, the rest has it, and may notify all waiters before it gives it back.

No wake-up is lost if what is done without the mutex leaves the conditions, and each event
that makes one of them true notifies (`Discipline.Sound`): in all interleavings, a waiter
sleeps while its condition holds only until the notification that is on its way
(`Sleeps.step`). So whenever the mutex is free, a waiter whose condition holds can leave
(`returns`).

* `Discipline.Sound`: what has to be checked of the events, each by itself;
* `Takes`, `takes_of_step`: the steps by what they change, for proofs by cases;
* `returns`: what follows for a waiter in every state that the threads can reach.
-/

namespace Monitor

/-- The events that update a state `σ`, and the conditions that threads `ι` wait for. -/
structure Discipline (σ ε ι : Type*) where
  /-- What an event does without the mutex. -/
  prepare : ε → σ → σ
  /-- The event takes the mutex. -/
  locks : ε → Bool
  /-- What it does with the mutex. -/
  update : ε → σ → σ
  /-- It notifies, in the state in which it has taken the mutex. -/
  notifies : ε → σ → Bool
  ready : ι → σ → Bool
  /-- The wait ends after a timeout. -/
  timed : ι → Bool

/-- Where a waiter is. -/
inductive Waiter
  /-- It has yet to take the mutex, for the first time or again. -/
  | entering (timedOut : Bool)
  /-- It has the mutex. -/
  | checking (timedOut : Bool)
  | asleep
  /-- It has left, because the condition holds or for a timeout. -/
  | left (ready : Bool)
  deriving DecidableEq, Repr

/-- Where a thread that updates is. -/
inductive Updater (ε : Type*)
  | idle
  | prepared (ev : ε)
  /-- It has the mutex. -/
  | entered (ev : ε)
  /-- It has updated the state, and is going to notify or not. -/
  | updated (notify : Bool)

/-- The state that is guarded, who has the mutex, and where everyone is. -/
structure State (σ ε ι κ : Type*) where
  shared : σ
  owner : Option (ι ⊕ κ) := none
  waiter : ι → Waiter := fun _ => .entering false
  updater : κ → Updater ε := fun _ => .idle

/-- A step of a waiter or of a thread that updates. -/
inductive Step (ε ι κ : Type*)
  | enter (i : ι)
  | check (i : ι)
  /-- A waiter wakes up for no reason. -/
  | wake (i : ι)
  | timeOut (i : ι)
  | prepare (k : κ) (ev : ε)
  | lock (k : κ)
  | update (k : κ)
  | notify (k : κ)
  | unlock (k : κ)

variable {σ ε ι κ : Type*}

/-- A sleeper that is notified. -/
def Waiter.notified : Waiter → Waiter
  | asleep => entering false
  | w => w

namespace State

/-- The waiter is somewhere else. -/
def setWaiter [DecidableEq ι] (s : State σ ε ι κ) (i : ι) (w : Waiter) : State σ ε ι κ :=
  { s with waiter := Function.update s.waiter i w }

/-- The thread is somewhere else. -/
def setUpdater [DecidableEq κ] (s : State σ ε ι κ) (k : κ) (u : Updater ε) : State σ ε ι κ :=
  { s with updater := Function.update s.updater k u }

end State

theorem State.waiter_setWaiter [DecidableEq ι] (s : State σ ε ι κ) (i : ι) (w : Waiter) (j : ι) :
    (s.setWaiter i w).waiter j = if j = i then w else s.waiter j :=
  Function.update_apply ..

theorem State.updater_setUpdater [DecidableEq κ] (s : State σ ε ι κ) (k : κ) (u : Updater ε)
    (l : κ) :
    (s.setUpdater k u).updater l = if l = k then u else s.updater l :=
  Function.update_apply ..

variable (d : Discipline σ ε ι)

/-- A step, if it is possible: no more than one has the mutex at a time. -/
def step [DecidableEq ι] [DecidableEq κ] (s : State σ ε ι κ) : Step ε ι κ → Option (State σ ε ι κ)
  | .enter i =>
    match s.waiter i, s.owner with
    | .entering timedOut, none =>
      some { s.setWaiter i (.checking timedOut) with owner := some (.inl i) }
    | _, _ => none
  | .check i =>
    match s.waiter i with
    | .checking timedOut =>
      some { s.setWaiter i (if d.ready i s.shared then .left true
        else if timedOut then .left false else .asleep) with owner := none }
    | _ => none
  | .wake i => if s.waiter i = .asleep then some (s.setWaiter i (.entering false)) else none
  | .timeOut i =>
    if s.waiter i = .asleep ∧ d.timed i then some (s.setWaiter i (.entering true)) else none
  | .prepare k ev =>
    match s.updater k with
    | .idle => some { s.setUpdater k (if d.locks ev then .prepared ev else .idle) with
        shared := d.prepare ev s.shared }
    | _ => none
  | .lock k =>
    match s.updater k, s.owner with
    | .prepared ev, none => some { s.setUpdater k (.entered ev) with owner := some (.inr k) }
    | _, _ => none
  | .update k =>
    match s.updater k with
    | .entered ev => some { s.setUpdater k (.updated (d.notifies ev s.shared)) with
        shared := d.update ev s.shared }
    | _ => none
  | .notify k =>
    match s.updater k with
    | .updated true => some { s.setUpdater k (.updated false) with
        waiter := fun i => (s.waiter i).notified }
    | _ => none
  | .unlock k =>
    match s.updater k with
    | .updated false => some { s.setUpdater k .idle with owner := none }
    | _ => none

/-- What a step needs, and what it does. -/
inductive Takes [DecidableEq ι] [DecidableEq κ] (s : State σ ε ι κ) :
    Step ε ι κ → State σ ε ι κ → Prop
  | enter {i : ι} {timedOut : Bool} (hi : s.waiter i = .entering timedOut)
    (howner : s.owner = none) :
    Takes s (.enter i) { s.setWaiter i (.checking timedOut) with owner := some (.inl i) }
  | check {i : ι} {timedOut : Bool} (hi : s.waiter i = .checking timedOut) :
    Takes s (.check i) { s.setWaiter i (if d.ready i s.shared then .left true
      else if timedOut then .left false else .asleep) with owner := none }
  | wake {i : ι} (hi : s.waiter i = .asleep) : Takes s (.wake i) (s.setWaiter i (.entering false))
  | timeOut {i : ι} (hi : s.waiter i = .asleep) (htimed : d.timed i = true) :
    Takes s (.timeOut i) (s.setWaiter i (.entering true))
  | prepare {k : κ} (ev : ε) (hk : s.updater k = .idle) :
    Takes s (.prepare k ev) { s.setUpdater k (if d.locks ev then .prepared ev else .idle) with
      shared := d.prepare ev s.shared }
  | lock {k : κ} {ev : ε} (hk : s.updater k = .prepared ev) (howner : s.owner = none) :
    Takes s (.lock k) { s.setUpdater k (.entered ev) with owner := some (.inr k) }
  | update {k : κ} {ev : ε} (hk : s.updater k = .entered ev) :
    Takes s (.update k) { s.setUpdater k (.updated (d.notifies ev s.shared)) with
      shared := d.update ev s.shared }
  | notify {k : κ} (hk : s.updater k = .updated true) :
    Takes s (.notify k) { s.setUpdater k (.updated false) with
      waiter := fun i => (s.waiter i).notified }
  | unlock {k : κ} (hk : s.updater k = .updated false) :
    Takes s (.unlock k) { s.setUpdater k .idle with owner := none }

/-- What is done without the mutex leaves the conditions, and what makes one of them true
    notifies. -/
structure Discipline.Sound : Prop where
  prepare : ∀ ev s i, d.ready i (d.prepare ev s) = true → d.ready i s = true
  update : ∀ ev s i, d.ready i (d.update ev s) = true → d.ready i s = true ∨ d.notifies ev s = true

/-- Who is in the middle of something has the mutex, and a waiter whose condition holds
    sleeps only until the notification that is on its way. -/
structure Sleeps (s : State σ ε ι κ) : Prop where
  checking : ∀ i timedOut, s.waiter i = .checking timedOut → s.owner = some (.inl i)
  entered : ∀ k ev, s.updater k = .entered ev → s.owner = some (.inr k)
  updated : ∀ k notify, s.updater k = .updated notify → s.owner = some (.inr k)
  asleep : ∀ i, s.waiter i = .asleep → d.ready i s.shared = true → ∃ k, s.updater k = .updated true

variable {d} {s s' : State σ ε ι κ}

/-- A step is one of these. -/
theorem takes_of_step [DecidableEq ι] [DecidableEq κ] {a : Step ε ι κ}
    (hstep : step d s a = some s') : Takes d s a s' := by
  cases a with
  | wake i =>
    obtain ⟨hi, hstep⟩ := Option.ite_none_right_eq_some.1 hstep
    exact Option.some.inj hstep ▸ .wake hi
  | timeOut i =>
    obtain ⟨⟨hi, htimed⟩, hstep⟩ := Option.ite_none_right_eq_some.1 hstep
    exact Option.some.inj hstep ▸ .timeOut hi htimed
  | enter i =>
    rw [step] at hstep
    split at hstep
    case h_1 hi howner => exact Option.some.inj hstep ▸ .enter hi howner
    case h_2 => cases hstep
  | check i =>
    rw [step] at hstep
    split at hstep
    case h_1 hi => exact Option.some.inj hstep ▸ .check hi
    case h_2 => cases hstep
  | prepare k ev =>
    rw [step] at hstep
    split at hstep
    case h_1 hk => exact Option.some.inj hstep ▸ .prepare ev hk
    case h_2 => cases hstep
  | lock k =>
    rw [step] at hstep
    split at hstep
    case h_1 hk howner => exact Option.some.inj hstep ▸ .lock hk howner
    case h_2 => cases hstep
  | update k =>
    rw [step] at hstep
    split at hstep
    case h_1 hk => exact Option.some.inj hstep ▸ .update hk
    case h_2 => cases hstep
  | notify k =>
    rw [step] at hstep
    split at hstep
    case h_1 hk => exact Option.some.inj hstep ▸ .notify hk
    case h_2 => cases hstep
  | unlock k =>
    rw [step] at hstep
    split at hstep
    case h_1 hk => exact Option.some.inj hstep ▸ .unlock hk
    case h_2 => cases hstep

/-- Nobody is in the middle of anything. -/
theorem sleeps_start (shared : σ) : Sleeps d ({ shared } : State σ ε ι κ) where
  checking _ _ h := by cases h
  entered _ _ h := by cases h
  updated _ _ h := by cases h
  asleep _ h := by cases h

namespace Sleeps

variable (h : Sleeps d s)
include h

/-- Whoever has the mutex is the only one. -/
theorem not_updated_of_checking {i : ι} {timedOut : Bool} (hi : s.waiter i = .checking timedOut)
    (k : κ) (notify : Bool) : s.updater k ≠ .updated notify := fun hk => by
  cases (h.checking i timedOut hi).symm.trans (h.updated k notify hk)

section Waiter

variable [DecidableEq ι]

/-- A sleeper wakes up. -/
theorem wake (i : ι) (timedOut : Bool) : Sleeps d (s.setWaiter i (.entering timedOut)) where
  checking j t hj := by
    rw [State.waiter_setWaiter] at hj
    split_ifs at hj
    exact h.checking j t hj
  entered := h.entered
  updated := h.updated
  asleep j hj hready := by
    rw [State.waiter_setWaiter] at hj
    split_ifs at hj
    exact h.asleep j hj hready

/-- A waiter takes the mutex. -/
theorem enter {i : ι} (timedOut : Bool) (howner : s.owner = none) :
    Sleeps d { s.setWaiter i (.checking timedOut) with owner := some (.inl i) } where
  checking j t hj := by
    replace hj : (s.setWaiter i (.checking timedOut)).waiter j = .checking t := hj
    rw [State.waiter_setWaiter] at hj
    split_ifs at hj with hji
    · rw [hji]
    · cases howner.symm.trans (h.checking j t hj)
  entered k ev hk := by cases howner.symm.trans (h.entered k ev hk)
  updated k notify hk := by cases howner.symm.trans (h.updated k notify hk)
  asleep j hj hready := by
    replace hj : (s.setWaiter i (.checking timedOut)).waiter j = .asleep := hj
    rw [State.waiter_setWaiter] at hj
    split_ifs at hj
    exact h.asleep j hj hready

/-- A waiter that falls asleep has seen that its condition does not hold. -/
theorem check {i : ι} {timedOut : Bool} (hi : s.waiter i = .checking timedOut) :
    Sleeps d { s.setWaiter i (if d.ready i s.shared then .left true
      else if timedOut then .left false else .asleep) with owner := none } where
  checking j t hj := by
    replace hj : (s.setWaiter i _).waiter j = .checking t := hj
    rw [State.waiter_setWaiter] at hj
    split_ifs at hj with hji
    cases (h.checking i timedOut hi).symm.trans (h.checking j t hj)
    exact absurd rfl hji
  entered k ev hk := by cases (h.checking i timedOut hi).symm.trans (h.entered k ev hk)
  updated k notify hk := absurd hk (h.not_updated_of_checking hi k notify)
  asleep j hj hready := by
    replace hj : (s.setWaiter i _).waiter j = .asleep := hj
    rw [State.waiter_setWaiter] at hj
    split_ifs at hj with hji hi'
    · exact absurd (hji ▸ hready) hi'
    · exact h.asleep j hj hready

end Waiter

section Updater

variable [DecidableEq κ]

/-- What is done without the mutex. -/
theorem prepare (hd : d.Sound) {k : κ} (hk : s.updater k = .idle) (ev : ε) :
    Sleeps d { s.setUpdater k (if d.locks ev then .prepared ev else .idle) with
      shared := d.prepare ev s.shared } where
  checking := h.checking
  entered l ev' hl := by
    replace hl : (s.setUpdater k _).updater l = .entered ev' := hl
    rw [State.updater_setUpdater] at hl
    split_ifs at hl
    exact h.entered l ev' hl
  updated l notify hl := by
    replace hl : (s.setUpdater k _).updater l = .updated notify := hl
    rw [State.updater_setUpdater] at hl
    split_ifs at hl
    exact h.updated l notify hl
  asleep j hj hready := by
    obtain ⟨l, hl⟩ := h.asleep j hj (hd.prepare ev s.shared j hready)
    refine ⟨l, (State.updater_setUpdater ..).trans (if_neg ?_ |>.trans hl)⟩
    rintro rfl
    cases hk.symm.trans hl

/-- A thread that updates takes the mutex. -/
theorem lock {k : κ} (ev : ε) (howner : s.owner = none) :
    Sleeps d { s.setUpdater k (.entered ev) with owner := some (.inr k) } where
  checking i t hi := by cases howner.symm.trans (h.checking i t hi)
  entered l ev' hl := by
    replace hl : (s.setUpdater k (.entered ev)).updater l = .entered ev' := hl
    rw [State.updater_setUpdater] at hl
    split_ifs at hl with hlk
    · rw [hlk]
    · cases howner.symm.trans (h.entered l ev' hl)
  updated l notify hl := by
    replace hl : (s.setUpdater k (.entered ev)).updater l = .updated notify := hl
    rw [State.updater_setUpdater] at hl
    split_ifs at hl
    cases howner.symm.trans (h.updated l notify hl)
  asleep j hj hready := by
    obtain ⟨l, hl⟩ := h.asleep j hj hready
    cases howner.symm.trans (h.updated l true hl)

/-- An event that makes a condition true is going to notify. -/
theorem update (hd : d.Sound) {k : κ} {ev : ε} (hk : s.updater k = .entered ev) :
    Sleeps d { s.setUpdater k (.updated (d.notifies ev s.shared)) with
      shared := d.update ev s.shared } where
  checking := h.checking
  entered l ev' hl := by
    replace hl : (s.setUpdater k _).updater l = .entered ev' := hl
    rw [State.updater_setUpdater] at hl
    split_ifs at hl
    exact h.entered l ev' hl
  updated l notify hl := by
    replace hl : (s.setUpdater k _).updater l = .updated notify := hl
    rw [State.updater_setUpdater] at hl
    split_ifs at hl with hlk
    · exact hlk ▸ h.entered k ev hk
    · exact h.updated l notify hl
  asleep j hj hready := by
    rcases hd.update ev s.shared j hready with hbefore | hnotifies
    · -- Then there is a notification on its way already, by the one who has the mutex.
      obtain ⟨l, hl⟩ := h.asleep j hj hbefore
      cases (h.updated l true hl).symm.trans (h.entered k ev hk)
      cases hl.symm.trans hk
    · exact ⟨k, (State.updater_setUpdater ..).trans ((if_pos rfl).trans (by rw [hnotifies]))⟩

/-- All sleepers are woken up. -/
theorem notify {k : κ} (hk : s.updater k = .updated true) :
    Sleeps d { s.setUpdater k (.updated false) with waiter := fun i => (s.waiter i).notified } where
  checking i t hi := by
    refine h.checking i t ?_
    cases hw : s.waiter i <;> simp_all [Waiter.notified]
  entered l ev' hl := by
    replace hl : (s.setUpdater k _).updater l = .entered ev' := hl
    rw [State.updater_setUpdater] at hl
    split_ifs at hl
    exact h.entered l ev' hl
  updated l notify hl := by
    replace hl : (s.setUpdater k _).updater l = .updated notify := hl
    rw [State.updater_setUpdater] at hl
    split_ifs at hl with hlk
    · exact hlk ▸ h.updated k true hk
    · exact h.updated l notify hl
  asleep j hj := by
    -- Nobody is asleep any more.
    cases hw : s.waiter j <;> simp_all [Waiter.notified]

/-- The mutex is given back. -/
theorem unlock {k : κ} (hk : s.updater k = .updated false) :
    Sleeps d { s.setUpdater k .idle with owner := none } where
  checking i t hi := absurd hk (h.not_updated_of_checking hi k false)
  entered l ev' hl := by
    replace hl : (s.setUpdater k _).updater l = .entered ev' := hl
    rw [State.updater_setUpdater] at hl
    split_ifs at hl with hlk
    cases (h.entered l ev' hl).symm.trans (h.updated k false hk)
    exact absurd rfl hlk
  updated l notify hl := by
    replace hl : (s.setUpdater k _).updater l = .updated notify := hl
    rw [State.updater_setUpdater] at hl
    split_ifs at hl with hlk
    cases (h.updated l notify hl).symm.trans (h.updated k false hk)
    exact absurd rfl hlk
  asleep j hj hready := by
    obtain ⟨l, hl⟩ := h.asleep j hj hready
    cases (h.updated l true hl).symm.trans (h.updated k false hk)
    cases hl.symm.trans hk

end Updater

/-- Every step keeps this, in whatever order the threads go on. -/
theorem step [DecidableEq ι] [DecidableEq κ] (hd : d.Sound) {a : Step ε ι κ}
    (hstep : Monitor.step d s a = some s') : Sleeps d s' := by
  cases takes_of_step hstep with
  | enter hi howner => exact h.enter _ howner
  | check hi => exact h.check hi
  | wake hi => exact h.wake _ false
  | timeOut hi htimed => exact h.wake _ true
  | prepare ev hk => exact h.prepare hd hk ev
  | lock hk howner => exact h.lock _ howner
  | update hk => exact h.update hd hk
  | notify hk => exact h.notify hk
  | unlock hk => exact h.unlock hk

end Sleeps

/-- In every state reached, a waiter whose condition holds does not sleep while the mutex is
    free, and leaves as soon as it gets the mutex. -/
theorem returns [DecidableEq ι] [DecidableEq κ] (hd : d.Sound) {shared : σ} {as : List (Step ε ι κ)}
    (h : Runs.run (step d) { shared } as = some s) (howner : s.owner = none) {i : ι}
    (hready : d.ready i s.shared = true) :
    s.waiter i ≠ .asleep ∧ ((∃ ready, s.waiter i = .left ready) ∨
      ∃ s', Runs.run (step d) s [.enter i, .check i] = some s' ∧ s'.waiter i = .left true) := by
  have hsleeps := Runs.reached (fun hs hstep => Sleeps.step hs hd hstep) (sleeps_start shared) h
  -- An event that was not notified of yet would be under way, with the mutex.
  have hawake : s.waiter i ≠ .asleep := fun hi => by
    obtain ⟨k, hk⟩ := hsleeps.asleep i hi hready
    cases howner.symm.trans (hsleeps.updated k true hk)
  refine ⟨hawake, ?_⟩
  cases hi : s.waiter i with
  | left ready => exact .inl ⟨ready, rfl⟩
  | asleep => exact absurd hi hawake
  | checking t => cases howner.symm.trans (hsleeps.checking i t hi)
  | entering t =>
    right
    set s₁ : State σ ε ι κ := { s.setWaiter i (.checking t) with owner := some (.inl i) }
    have henter : step d s (.enter i) = some s₁ := by rw [step, hi, howner]
    have hchecking : s₁.waiter i = .checking t := (State.waiter_setWaiter ..).trans (if_pos rfl)
    have hcheck : step d s₁ (.check i) =
        some { s₁.setWaiter i (.left true) with owner := none } := by
      have hready₁ : d.ready i s₁.shared = true := hready
      simp only [step, hchecking, hready₁, if_true]
    refine ⟨_, by rw [Runs.run, henter, Option.bind_some, Runs.run, hcheck]; rfl, ?_⟩
    exact (State.waiter_setWaiter ..).trans (if_pos rfl)

end Monitor
