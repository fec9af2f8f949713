import OpenLawsVpn.Core.History

/-!
# The verdict of Phase 2

In direct mode, Phase 2 succeeds if `wait_for_connected` returns, and fails if it
throws. The thread waiting is notified of the event that decides, but may get to
run only after many others, which write to the same latches. It is told the
same all the time (`waitForConnected_decided`):

* the verdict is that of the first event among `CONNECTED`, `AUTH_FAILED` and
  `FATAL_ERROR` (`firstVerdict`), whatever was delivered since;
* what a connection sets is set after a connection only, and no error is
  recorded after one (`Recorded.needReauth`, `Recorded.error_of_connected`).

* `firstVerdict_eq_connected_iff`: when the first event that decides is a connection;
* `needReauth_handleAll`: the request of a new login, by the events after the first connection;
* `waitForConnected_decided`: the wait gives the verdict at every later moment.
-/

namespace OpenLawsVpn

/-! ## The event that decides -/

/-- The name of an event that decides whether Phase 2 succeeds. -/
def IsVerdict (name : Bytes) : Prop :=
  name = lit "CONNECTED" ∨ name = lit "AUTH_FAILED" ∨ name = lit "FATAL_ERROR"

instance (name : Bytes) : Decidable (IsVerdict name) := inferInstanceAs (Decidable (_ ∨ _ ∨ _))

/-- The first event that decides, by its name. -/
def firstVerdict (inputs : List CoreInput) : Option Bytes :=
  (eventNames inputs).find? fun name => decide (IsVerdict name)

/-- The first verdict of two runs is that of the first one that has one. -/
theorem firstVerdict_append (l l' : List CoreInput) :
    firstVerdict (l ++ l') = (firstVerdict l).or (firstVerdict l') := by
  rw [firstVerdict, eventNames_append, List.find?_append, firstVerdict, firstVerdict]

/-- Of a single input: an error decides by its own name. -/
theorem firstVerdict_singleton_iff {input : CoreInput} :
    (∃ name, firstVerdict [input] = some name ∧ name ≠ lit "CONNECTED") ↔
      ∃ ev, input = .event ev ∧ ev.IsError := by
  have hne : lit "AUTH_FAILED" ≠ lit "CONNECTED" ∧ lit "FATAL_ERROR" ≠ lit "CONNECTED" := by decide
  cases input with
  | socketProtect remote ipv6 => simp [firstVerdict, eventNames]
  | log text => simp [firstVerdict, eventNames]
  | event ev =>
    simp only [firstVerdict, eventNames, List.filterMap_cons, List.filterMap_nil,
      List.find?_singleton, Event.IsError]
    constructor
    · rintro ⟨name, hname, hne'⟩
      split_ifs at hname with hmem
      obtain rfl := Option.some.inj hname
      exact ⟨ev, rfl, (decide_eq_true_iff.1 hmem).resolve_left hne'⟩
    · rintro ⟨ev', heq, hev⟩
      obtain rfl := CoreInput.event.inj heq
      refine ⟨ev.name, if_pos (decide_eq_true_iff.2 (.inr hev)), ?_⟩
      rcases hev with hev | hev <;> rw [hev]
      exacts [hne.1, hne.2]

/-- If the first verdict is a connection, there is one. -/
theorem connected_mem_of_firstVerdict {inputs : List CoreInput}
    (h : firstVerdict inputs = some (lit "CONNECTED")) : lit "CONNECTED" ∈ eventNames inputs :=
  List.mem_of_find?_eq_some h

theorem connected_notMem_of_firstVerdict {inputs : List CoreInput} (h : firstVerdict inputs = none) :
    lit "CONNECTED" ∉ eventNames inputs := fun hmem =>
  List.find?_eq_none.1 h _ hmem (decide_eq_true_iff.2 (.inl rfl))

/-- The attempt failed exactly if an error was the first to decide. -/
theorem failed_iff_firstVerdict {inputs : List CoreInput} :
    Failed inputs ↔ ∃ name, firstVerdict inputs = some name ∧ name ≠ lit "CONNECTED" := by
  induction inputs using List.reverseRecOn with
  | nil =>
    refine iff_of_false ?_ (by simp [firstVerdict, eventNames])
    rintro ⟨before, ev, after, heq, -⟩
    simp at heq
  | append_singleton l input ih =>
    rw [failed_concat_iff, ih, firstVerdict_append]
    cases hfirst : firstVerdict l with
    | none =>
      -- Nothing decided before: the last input does, if it is an error.
      have hnot := connected_notMem_of_firstVerdict hfirst
      simp only [reduceCtorEq, false_and, exists_false, false_or, Option.none_or, hnot,
        not_false_eq_true, and_true]
      exact firstVerdict_singleton_iff.symm
    | some name =>
      simp only [Option.some.injEq, exists_eq_left', Option.some_or]
      refine ⟨?_, .inl⟩
      rintro (hne | ⟨ev, -, -, hnot⟩)
      · exact hne
      · rintro rfl
        exact hnot (connected_mem_of_firstVerdict hfirst)

/-- The first verdict is a connection exactly if there is one, and no failure before it. -/
theorem firstVerdict_eq_connected_iff {inputs : List CoreInput} :
    firstVerdict inputs = some (lit "CONNECTED") ↔
      lit "CONNECTED" ∈ eventNames inputs ∧ ¬Failed inputs := by
  rw [failed_iff_firstVerdict]
  constructor
  · intro h
    refine ⟨connected_mem_of_firstVerdict h, ?_⟩
    rintro ⟨name, hname, hne⟩
    exact hne (Option.some.inj (hname.symm.trans h))
  · rintro ⟨hmem, hnot⟩
    cases hfirst : firstVerdict inputs with
    | none => exact absurd hmem (connected_notMem_of_firstVerdict hfirst)
    | some name => exact congrArg some (not_not.1 fun hne => hnot ⟨name, hfirst, hne⟩)

/-! ## What is set after a connection -/

/-- An event that asks for credentials, once there was a connection. -/
def IsRequest (name : Bytes) : Prop := name = lit "NEED_CREDS" ∨ name = lit "AUTH_FAILED"

instance (name : Bytes) : Decidable (IsRequest name) := inferInstanceAs (Decidable (_ ∨ _))

/-- Credentials were asked for, after a connection. -/
def Requested (names : List Bytes) : Prop :=
  ∃ name, IsRequest name ∧ List.Sublist [lit "CONNECTED", name] names

/-- A login is requested by an event after a connection: this one, or one before. -/
theorem requested_concat_iff {l : List Bytes} {name : Bytes} :
    Requested (l ++ [name]) ↔ Requested l ∨ lit "CONNECTED" ∈ l ∧ IsRequest name := by
  simp only [Requested, Latch.pair_sublist_append, and_or_left, exists_or]
  refine or_congr_right ⟨?_, fun h => ⟨name, h.2, h.1, rfl⟩⟩
  rintro ⟨name', hname', hmem, rfl⟩
  exact ⟨hmem, hname'⟩

namespace CoreClient

variable (level : ℤ) (now : Stamp) (ev : Event) (core : CoreClient)

/-- Only such an event sets the flag. -/
theorem event_needReauth :
    (core.event level now ev).1.needReauth = true ↔
      core.needReauth = true ∨ core.connected = true ∧ IsRequest ev.name := by
  rw [IsRequest, event]
  generalize (if 0 < level then [CoreAction.log (eventLine now ev)] else []) = log
  by_cases hchallenge : ev.name = lit "DYNAMIC_CHALLENGE"
  · have hcreds : ev.name ≠ lit "NEED_CREDS" := by rw [hchallenge]; decide
    have hfailed : ev.name ≠ lit "AUTH_FAILED" := by rw [hchallenge]; decide
    rw [if_pos hchallenge]
    cases parseChallenge ev.info <;> simp [hcreds, hfailed]
  · rw [if_neg hchallenge]
    split_ifs <;> simp_all +decide

/-- What is no event leaves the flag. -/
theorem handle_needReauth_of_not_event (settings : Settings) {input : CoreInput}
    (h : ∀ ev, input ≠ .event ev) :
    (core.handle settings now input).1.needReauth = core.needReauth := by
  cases input with
  | event ev => exact absurd rfl (h ev)
  | log text => rfl
  | socketProtect remote ipv6 =>
    simp only [handle, socketProtect]
    cases settings.socketProtect <;> dsimp only <;> split_ifs <;> rfl

/-- The request of credentials, by what was delivered. -/
theorem needReauth_handleAll (settings : Settings) (inputs : List (Stamp × CoreInput)) :
    (handleAll settings inputs {}).needReauth = true ↔
      Requested (eventNames (inputs.map Prod.snd)) := by
  induction inputs using List.reverseRecOn with
  | nil => simp [handleAll, Requested, eventNames]
  | append_singleton l input ih =>
    have htracks := (Recorded.init.handleAll settings l).tracks
    have hsplit : handleAll settings (l ++ [input]) {} =
        ((handleAll settings l {}).handle settings input.1 input.2).1 := List.foldl_concat ..
    rw [hsplit, List.map_append, eventNames_append]
    -- Only an event may request credentials, and only while connected.
    by_cases hev : ∃ ev, input.2 = .event ev
    · obtain ⟨ev, hev⟩ := hev
      have hname : eventNames ([input].map Prod.snd) = [ev.name] := by simp [eventNames, hev]
      rw [hname, requested_concat_iff, hev, CoreClient.handle, event_needReauth, ih,
        htracks.connected, List.nil_append]
    · have hnot : ∀ ev, input.2 ≠ .event ev := fun ev h => hev ⟨ev, h⟩
      have hname : eventNames ([input].map Prod.snd) = [] := by
        cases hinput : input.2 with
        | event ev => exact absurd hinput (hnot ev)
        | socketProtect remote ipv6 => simp [eventNames, hinput]
        | log text => simp [eventNames, hinput]
      rw [hname, List.append_nil, handle_needReauth_of_not_event _ _ settings hnot, ih]

end CoreClient

/-! ## The verdict -/

namespace Recorded

variable {inputs : List CoreInput} {core : CoreClient} (h : Recorded inputs core)
include h

/-- The wait ends well exactly if a connection was the first to decide. -/
theorem waitForConnected_iff :
    core.waitForConnected = .ok () ↔ firstVerdict inputs = some (lit "CONNECTED") := by
  rw [firstVerdict_eq_connected_iff, ← h.error, ← h.tracks.connected, CoreClient.waitForConnected,
    CoreClient.connectedReady]
  cases core.connected <;> cases core.error <;> simp

/-- There is a verdict as soon as one of the two latches is set. -/
theorem connectedReady_iff :
    core.connected = true ∨ core.error = true ↔ (firstVerdict inputs).isSome = true := by
  rw [h.error, h.tracks.connected]
  constructor
  · rintro (hmem | hfailed)
    · cases hfirst : firstVerdict inputs with
      | none => exact absurd hmem (connected_notMem_of_firstVerdict hfirst)
      | some name => rfl
    · obtain ⟨name, hname, -⟩ := failed_iff_firstVerdict.1 hfailed
      rw [hname, Option.isSome_some]
  · intro hsome
    obtain ⟨name, hname⟩ := Option.isSome_iff_exists.1 hsome
    by_cases hc : name = lit "CONNECTED"
    · exact .inl (connected_mem_of_firstVerdict (hc ▸ hname))
    · exact .inr (failed_iff_firstVerdict.2 ⟨name, hname, hc⟩)

/-- After a connection, no failure is recorded any more. -/
theorem error_of_connected {core' : CoreClient} {later : List CoreInput}
    (h' : Recorded (inputs ++ later) core') (hconnected : core.connected = true) :
    core'.error = core.error := by
  rw [Bool.eq_iff_iff, h.error, h'.error, failed_append_iff, or_iff_left]
  rintro ⟨before, ev, after, -, -, hnot⟩
  rw [eventNames_append] at hnot
  exact hnot (List.mem_append_left _ (h.tracks.connected.1 hconnected))

theorem connected_of_finalDisconnect (hfinal : core.finalDisconnect = true) :
    core.connected = true :=
  h.tracks.connected.2 ((h.tracks.final.1 hfinal).subset List.mem_cons_self)

end Recorded

namespace CoreClient

/-- A client that needs a new login was connected. -/
theorem connected_of_needReauth {settings : Settings} {inputs : List (Stamp × CoreInput)}
    (h : (handleAll settings inputs {}).needReauth = true) :
    (handleAll settings inputs {}).connected = true := by
  obtain ⟨name, -, hsub⟩ := (needReauth_handleAll settings inputs).1 h
  have htracks := (Recorded.init.handleAll settings inputs).tracks
  exact htracks.connected.2 (hsub.subset List.mem_cons_self)

/-- The verdict of Phase 2 does not depend on when the waiter gets to run: it is
    that of the first event that decides, and what is delivered later changes
    nothing about it. -/
theorem waitForConnected_decided (settings : Settings) (inputs later : List (Stamp × CoreInput)) :
    let core := handleAll settings inputs {}
    let core' := core.handleAll settings later
    (core.waitForConnected = .ok () ↔
      firstVerdict (inputs.map Prod.snd) = some (lit "CONNECTED")) ∧
    (core.connected = true ∨ core.error = true →
      core'.connectedReady = true ∧ (core'.waitForConnected = .ok () ↔ core.waitForConnected = .ok ())) ∧
    (core.needReauth = true ∨ core.finalDisconnect = true → core.connected = true) ∧
    (core.connected = true → core'.error = core.error) := by
  intro core core'
  have h : Recorded (inputs.map Prod.snd) core := Recorded.init.handleAll settings inputs
  have h' : Recorded (inputs.map Prod.snd ++ later.map Prod.snd) core' := h.handleAll settings later
  refine ⟨h.waitForConnected_iff, fun hready => ?_, ?_, h.error_of_connected h'⟩
  · obtain ⟨name, hname⟩ := Option.isSome_iff_exists.1 (h.connectedReady_iff.1 hready)
    have hname' : firstVerdict (inputs.map Prod.snd ++ later.map Prod.snd) = some name := by
      rw [firstVerdict_append, hname, Option.some_or]
    rw [h.waitForConnected_iff, h'.waitForConnected_iff, hname, hname', connectedReady,
      Bool.or_eq_true, h'.connectedReady_iff, hname']
    exact ⟨rfl, Iff.rfl⟩
  · rintro (hreauth | hfinal)
    · exact connected_of_needReauth hreauth
    · exact h.connected_of_finalDisconnect hfinal

end CoreClient

end OpenLawsVpn
