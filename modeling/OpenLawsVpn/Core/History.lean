import OpenLawsVpn.Core.Challenge
import OpenLawsVpn.Core.Flags

/-!
# The core client and its history

All that the threads waiting for the core client look at is read off what was
delivered to it (`Recorded`): the last challenge, the last address, whether the
attempt failed before it was connected.

So the result of Phase 1 is that of the *last* challenge delivered before the
waiter gets to run, unless there was a failure by then. It is the one of the
challenge that the waiter was notified of exactly if nothing delivered since
disturbs it (`waitForSaml_iff`).

* `challenges`, `addresses`, `Failed`: what of the inputs counts;
* `Recorded.handle`: every input keeps the record;
* `Recorded.waitForSaml_eq_ok_iff`: the result of the wait, by what was delivered;
* `waitForSaml_iff`: the condition on the inputs between the notification and the waiter;
* `waitForSaml_of_authFailed`: a failure that takes the place of the challenge.
-/

namespace OpenLawsVpn

/-! ## Histories -/

/-- The state id and the URL of a challenge that is accepted. -/
def CoreInput.challenge? : CoreInput → Option (Bytes × Bytes)
  | .event ev =>
    if ev.name = lit "DYNAMIC_CHALLENGE" then CoreClient.parseChallenge ev.info else none
  | _ => none

/-- The address of a socket, if there is one. -/
def CoreInput.address? : CoreInput → Option Bytes
  | .socketProtect remote _ => if remote = [] then none else some remote
  | _ => none

/-- The challenges delivered. -/
def challenges (inputs : List CoreInput) : List (Bytes × Bytes) :=
  inputs.filterMap CoreInput.challenge?

/-- The addresses delivered. -/
def addresses (inputs : List CoreInput) : List Bytes := inputs.filterMap CoreInput.address?

/-- An event that ends the attempt, before a connection. -/
def Event.IsError (ev : Event) : Prop := ev.name = lit "AUTH_FAILED" ∨ ev.name = lit "FATAL_ERROR"

instance (ev : Event) : Decidable ev.IsError := inferInstanceAs (Decidable (_ ∨ _))

/-- The attempt failed, before a connection. -/
def Failed (inputs : List CoreInput) : Prop :=
  ∃ before ev after, inputs = before ++ .event ev :: after ∧ ev.IsError ∧
    lit "CONNECTED" ∉ eventNames before

theorem eventNames_append (l l' : List CoreInput) :
    eventNames (l ++ l') = eventNames l ++ eventNames l' :=
  List.filterMap_append

theorem challenges_append (l l' : List CoreInput) :
    challenges (l ++ l') = challenges l ++ challenges l' :=
  List.filterMap_append

theorem addresses_append (l l' : List CoreInput) :
    addresses (l ++ l') = addresses l ++ addresses l' :=
  List.filterMap_append

/-- A later part of the history fails unless a connection was established before. -/
theorem failed_append_iff {l l' : List CoreInput} :
    Failed (l ++ l') ↔ Failed l ∨ ∃ before ev after, l' = before ++ .event ev :: after ∧
      ev.IsError ∧ lit "CONNECTED" ∉ eventNames (l ++ before) := by
  constructor
  · rintro ⟨before, ev, after, heq, hev, hnot⟩
    rcases List.append_eq_append_iff.1 heq with ⟨r, rfl, hr⟩ | ⟨r, rfl, hr⟩
    · exact .inr ⟨r, ev, after, hr, hev, hnot⟩
    · cases r with
      | nil => exact .inr ⟨[], ev, after, hr.symm, hev, by simpa using hnot⟩
      | cons input r =>
        obtain ⟨rfl, -⟩ := List.cons.inj hr
        exact .inl ⟨before, ev, r, rfl, hev, hnot⟩
  · rintro (⟨before, ev, after, rfl, hev, hnot⟩ | ⟨before, ev, after, rfl, hev, hnot⟩)
    · exact ⟨before, ev, after ++ l', by simp, hev, hnot⟩
    · exact ⟨l ++ before, ev, after, by simp, hev, hnot⟩

/-- A failure is an error event before any connection: this one, or one before. -/
theorem failed_concat_iff {l : List CoreInput} {input : CoreInput} :
    Failed (l ++ [input]) ↔ Failed l ∨ ∃ ev, input = .event ev ∧ ev.IsError ∧
      lit "CONNECTED" ∉ eventNames l := by
  rw [failed_append_iff]
  refine or_congr_right ⟨?_, ?_⟩
  · rintro ⟨before, ev, after, heq, hev, hnot⟩
    obtain ⟨rfl, hafter⟩ | ⟨r, -, hr⟩ := List.append_eq_cons_iff.1 heq.symm
    · obtain ⟨rfl, -⟩ := List.cons.inj hafter
      exact ⟨ev, rfl, hev, by simpa using hnot⟩
    · simp at hr
  · rintro ⟨ev, rfl, hev, hnot⟩
    exact ⟨[], ev, [], rfl, hev, by simpa using hnot⟩

/-! ## What is recorded -/

namespace CoreClient

variable (level : ℤ) (now : Stamp) (ev : Event) (core : CoreClient)

/-- An error event sets the flag unless the client is connected. -/
theorem event_error :
    (core.event level now ev).1.error = true ↔
      core.error = true ∨ ev.IsError ∧ core.connected = false := by
  unfold event Event.IsError
  generalize (if 0 < level then [CoreAction.log (eventLine now ev)] else []) = log
  dsimp only
  by_cases hchallenge : ev.name = lit "DYNAMIC_CHALLENGE"
  · have hfailed : ev.name ≠ lit "AUTH_FAILED" := by rw [hchallenge]; decide
    have hfatal : ev.name ≠ lit "FATAL_ERROR" := by rw [hchallenge]; decide
    rw [if_pos hchallenge]
    cases parseChallenge ev.info <;> simp [hfailed, hfatal]
  · rw [if_neg hchallenge]
    split_ifs <;> simp_all +decide

/-- An event that is no challenge leaves what the last one left. -/
theorem event_of_not_challenge (h : (CoreInput.event ev).challenge? = none) :
    (core.event level now ev).1.done = core.done ∧
      (core.event level now ev).1.stateId = core.stateId ∧
        (core.event level now ev).1.samlUrl = core.samlUrl := by
  rw [CoreInput.challenge?] at h
  unfold event
  dsimp only
  by_cases hchallenge : ev.name = lit "DYNAMIC_CHALLENGE"
  · rw [if_pos hchallenge] at h
    rw [if_pos hchallenge, h]
    exact ⟨rfl, rfl, rfl⟩
  · rw [if_neg hchallenge]
    split_ifs <;> exact ⟨rfl, rfl, rfl⟩

/-- A challenge that is read sets its fields and the flag. -/
theorem event_of_challenge {stateId samlUrl : Bytes}
    (h : (CoreInput.event ev).challenge? = some (stateId, samlUrl)) :
    (core.event level now ev).1 =
      { core with stateId := stateId, samlUrl := samlUrl, done := true } := by
  rw [CoreInput.challenge?] at h
  split_ifs at h with hchallenge
  simp [event, hchallenge, h]

/-- No event changes the address. -/
theorem event_remoteIp : (core.event level now ev).1.remoteIp = core.remoteIp := by
  unfold event
  generalize (if 0 < level then [CoreAction.log (eventLine now ev)] else []) = log
  dsimp only
  split_ifs
  · cases parseChallenge ev.info <;> rfl
  all_goals rfl

end CoreClient

/-- The state of a core client, by what was delivered to it. -/
structure Recorded (inputs : List CoreInput) (core : CoreClient) : Prop where
  tracks : Tracks inputs core
  done : core.done = true ↔ challenges inputs ≠ []
  error : core.error = true ↔ Failed inputs
  challenge : (core.stateId, core.samlUrl) = (challenges inputs).getLastD ([], [])
  remoteIp : core.remoteIp = (addresses inputs).getLastD []

namespace Recorded

theorem init : Recorded [] {} where
  tracks := .init
  done := by simp [challenges]
  error := by
    simp only [Bool.false_eq_true, false_iff]
    rintro ⟨before, ev, after, heq, -⟩
    simp at heq
  challenge := rfl
  remoteIp := rfl

variable {inputs : List CoreInput} {core : CoreClient} (h : Recorded inputs core)
include h

/-- An event is recorded: a challenge takes the place of the one before. -/
theorem event (settings : Settings) (now : Stamp) (ev : Event) :
    Recorded (inputs ++ [.event ev]) (core.event settings.logLevel now ev).1 where
  tracks := h.tracks.handle settings now (.event ev)
  done := by
    rw [challenges_append]
    cases hchallenge : (CoreInput.event ev).challenge? with
    | none =>
      rw [(core.event_of_not_challenge _ now ev hchallenge).1, h.done]
      simp [challenges, hchallenge]
    | some p =>
      rw [core.event_of_challenge _ now ev hchallenge]
      simp [challenges, hchallenge]
  -- An error is fatal only before the connection.
  error := by
    rw [core.event_error, h.error, failed_concat_iff]
    refine or_congr_right ?_
    rw [← Bool.not_eq_true, h.tracks.connected]
    simp
  challenge := by
    rw [challenges_append]
    cases hchallenge : (CoreInput.event ev).challenge? with
    | none =>
      obtain ⟨-, hstateId, hsamlUrl⟩ := core.event_of_not_challenge settings.logLevel now ev hchallenge
      rw [hstateId, hsamlUrl, h.challenge]
      simp [challenges, hchallenge]
    | some p =>
      rw [core.event_of_challenge _ now ev hchallenge]
      simp [challenges, hchallenge]
  remoteIp := by
    rw [core.event_remoteIp, h.remoteIp, addresses_append]
    simp [addresses, CoreInput.address?]

/-- A socket is recorded by its address, and changes nothing else. -/
theorem socketProtect (settings : Settings) (now : Stamp) (remote : Bytes) (ipv6 : Bool) :
    Recorded (inputs ++ [.socketProtect remote ipv6])
      (core.handle settings now (.socketProtect remote ipv6)).1 := by
  have htracks := h.tracks.handle settings now (.socketProtect remote ipv6)
  have hstate : (core.handle settings now (.socketProtect remote ipv6)).1 =
      if remote ≠ [] then { core with remoteIp := remote } else core := by
    simp only [CoreClient.handle, CoreClient.socketProtect]
    cases settings.socketProtect <;> rfl
  rw [hstate] at htracks ⊢
  have hchallenges : challenges (inputs ++ [.socketProtect remote ipv6]) = challenges inputs := by
    simp [challenges, CoreInput.challenge?]
  have hfailed : Failed (inputs ++ [.socketProtect remote ipv6]) ↔ Failed inputs := by
    simp [failed_concat_iff]
  have haddresses : addresses (inputs ++ [.socketProtect remote ipv6]) =
      addresses inputs ++ if remote = [] then [] else [remote] := by
    rw [addresses_append]
    simp only [addresses, CoreInput.address?, List.filterMap_cons, List.filterMap_nil]
    split_ifs <;> rfl
  -- An empty address is not recorded.
  by_cases hremote : remote = []
  · rw [if_neg (not_not.2 hremote)] at htracks ⊢
    rw [if_pos hremote, List.append_nil] at haddresses
    exact ⟨htracks, hchallenges ▸ h.done, h.error.trans hfailed.symm, hchallenges ▸ h.challenge,
      haddresses ▸ h.remoteIp⟩
  · rw [if_pos hremote] at htracks ⊢
    rw [if_neg hremote] at haddresses
    exact ⟨htracks, hchallenges ▸ h.done, h.error.trans hfailed.symm, hchallenges ▸ h.challenge,
      by rw [haddresses, List.getLastD_concat]⟩

/-- Every input is recorded. -/
theorem handle (settings : Settings) (now : Stamp) (input : CoreInput) :
    Recorded (inputs ++ [input]) (core.handle settings now input).1 := by
  cases input with
  | event ev => exact h.event settings now ev
  | socketProtect remote ipv6 => exact h.socketProtect settings now remote ipv6
  | log text =>
    have hfailed : Failed (inputs ++ [.log text]) ↔ Failed inputs := by simp [failed_concat_iff]
    have hchallenges : challenges (inputs ++ [.log text]) = challenges inputs := by
      simp [challenges, CoreInput.challenge?]
    have haddresses : addresses (inputs ++ [.log text]) = addresses inputs := by
      simp [addresses, CoreInput.address?]
    exact ⟨h.tracks.handle settings now (.log text), hchallenges ▸ h.done,
      h.error.trans hfailed.symm, hchallenges ▸ h.challenge, haddresses ▸ h.remoteIp⟩

end Recorded

/-! ## Waiting for the challenge -/

namespace CoreClient

/-- The state after what is delivered, each with the time. -/
def handleAll (settings : Settings) (inputs : List (Stamp × CoreInput)) (core : CoreClient) :
    CoreClient :=
  inputs.foldl (fun core input => (core.handle settings input.1 input.2).1) core

end CoreClient

/-- The record goes on with later inputs. -/
theorem Recorded.handleAll {inputs : List CoreInput} {core : CoreClient} (h : Recorded inputs core)
    (settings : Settings) (later : List (Stamp × CoreInput)) :
    Recorded (inputs ++ later.map Prod.snd) (core.handleAll settings later) := by
  rw [CoreClient.handleAll]
  induction later generalizing inputs core with
  | nil => simpa using h
  | cons input later ih =>
    rw [List.foldl_cons, List.map_cons, show inputs ++ input.2 :: later.map Prod.snd =
      inputs ++ [input.2] ++ later.map Prod.snd by simp]
    exact ih (h.handle settings input.1 input.2)

/-- The result of Phase 1, by what was delivered until the waiter gets to run. -/
theorem Recorded.waitForSaml_eq_ok_iff {inputs : List CoreInput} {core : CoreClient}
    (h : Recorded inputs core) {result : Challenge} :
    core.waitForSaml = .ok result ↔ ¬Failed inputs ∧ challenges inputs ≠ [] ∧
      (challenges inputs).getLastD ([], []) = (result.stateId, result.samlUrl) ∧
        (addresses inputs).getLastD [] = result.remoteIp := by
  rw [← h.error, ← h.done, ← h.challenge, ← h.remoteIp, CoreClient.waitForSaml,
    CoreClient.samlReady]
  obtain ⟨samlUrl, stateId, remoteIp⟩ := result
  cases core.done <;> cases core.error <;> simp [and_comm, and_assoc]

/-- What is delivered after a challenge leaves the result of Phase 1: no failure
    without a connection before it, no last challenge with other fields, and no
    last address but the one recorded. -/
structure Undisturbed (before : List CoreInput) (m : Crv1) (after : List CoreInput) : Prop where
  noError : ∀ l ev l', after = l ++ .event ev :: l' → ev.IsError →
    lit "CONNECTED" ∈ eventNames (before ++ l)
  sameChallenge : ∀ p ∈ (challenges after).getLast?, p = (m.stateId, m.text)
  sameAddress : (addresses (before ++ after)).getLastD [] = (addresses before).getLastD []

namespace CoreClient

/-- The event of a challenge delivers its fields. -/
theorem challenge?_challengeEvent (m : Crv1) :
    (CoreInput.event (challengeEvent m.render)).challenge? = some (m.stateId, m.text) := by
  rw [CoreInput.challenge?, challengeEvent, if_pos rfl, parseChallenge_render]

theorem name_challengeEvent (info : Bytes) :
    (challengeEvent info).name = lit "DYNAMIC_CHALLENGE" := rfl

/-- The challenge itself is no failure, and no connection. -/
theorem failed_challenge_iff {before after : List CoreInput} (m : Crv1) (hbefore : ¬Failed before) :
    Failed (before ++ .event (challengeEvent m.render) :: after) ↔
      ∃ l ev l', after = l ++ .event ev :: l' ∧ ev.IsError ∧
        lit "CONNECTED" ∉ eventNames (before ++ l) := by
  -- The challenge adds no failure, and its name is not that of a connection.
  have hconcat : ¬Failed (before ++ [.event (challengeEvent m.render)]) := by
    rw [failed_concat_iff, not_or]
    refine ⟨hbefore, ?_⟩
    rintro ⟨ev, heq, hev, -⟩
    obtain rfl := CoreInput.event.inj heq
    rw [Event.IsError, name_challengeEvent] at hev
    exact absurd hev (by decide)
  have hnames : ∀ l, lit "CONNECTED" ∈ eventNames (before ++ [.event (challengeEvent m.render)] ++ l) ↔
      lit "CONNECTED" ∈ eventNames (before ++ l) := fun l => by
    have hne : lit "CONNECTED" ≠ (challengeEvent m.render).name := by
      rw [name_challengeEvent]
      decide
    simp only [eventNames_append, List.mem_append, show eventNames [.event (challengeEvent m.render)] =
      [(challengeEvent m.render).name] from rfl, List.mem_singleton, hne, or_false]
  rw [show before ++ .event (challengeEvent m.render) :: after =
    before ++ [.event (challengeEvent m.render)] ++ after by simp, failed_append_iff,
    or_iff_right hconcat]
  simp only [hnames]

/-- The challenge that the waiter is notified of is the result of Phase 1, whenever
    the waiter gets to run, exactly if it is not disturbed until then. -/
theorem waitForSaml_iff (settings : Settings) (before after : List (Stamp × CoreInput))
    (now : Stamp) (m : Crv1) (hbefore : (handleAll settings before {}).samlReady = false) :
    (handleAll settings (before ++ (now, .event (challengeEvent m.render)) :: after) {}).waitForSaml =
      .ok ⟨m.text, m.stateId, (handleAll settings before {}).remoteIp⟩ ↔
        Undisturbed (before.map Prod.snd) m (after.map Prod.snd) := by
  have h₀ := Recorded.init.handleAll settings before
  rw [List.nil_append] at h₀
  rw [samlReady, Bool.or_eq_false_iff, ← Bool.not_eq_true, ← Bool.not_eq_true, h₀.done, not_not,
    h₀.error] at hbefore
  obtain ⟨hnone, hfailed⟩ := hbefore
  have h := Recorded.init.handleAll settings
    (before ++ (now, .event (challengeEvent m.render)) :: after)
  rw [List.nil_append, List.map_append, List.map_cons] at h
  -- The challenge is the first that counts, and no address.
  have hchallenges : challenges (before.map Prod.snd ++
      .event (challengeEvent m.render) :: after.map Prod.snd) =
        (m.stateId, m.text) :: challenges (after.map Prod.snd) := by
    rw [challenges_append, hnone, List.nil_append, challenges,
      List.filterMap_cons_some (challenge?_challengeEvent m), challenges]
  have haddresses : addresses (before.map Prod.snd ++
      .event (challengeEvent m.render) :: after.map Prod.snd) =
        addresses (before.map Prod.snd ++ after.map Prod.snd) := by
    rw [addresses_append, addresses_append]
    rfl
  rw [h.waitForSaml_eq_ok_iff, failed_challenge_iff m hfailed, hchallenges, haddresses,
    List.getLastD_cons, h₀.remoteIp]
  -- What is left compares the last challenge and the address with the first.
  constructor
  · rintro ⟨hnot, -, hlast, haddress⟩
    refine ⟨fun l ev l' heq hev => ?_, fun p hp => ?_, haddress⟩
    · by_contra hconnected
      exact hnot ⟨l, ev, l', heq, hev, hconnected⟩
    · rwa [List.getLastD_eq_getLast?, Option.mem_def.1 hp] at hlast
  · rintro ⟨hnoError, hsame, haddress⟩
    refine ⟨?_, List.cons_ne_nil _ _, ?_, haddress⟩
    · rintro ⟨l, ev, l', heq, hev, hconnected⟩
      exact hconnected (hnoError l ev l' heq hev)
    · rw [List.getLastD_eq_getLast?]
      cases hlast : (challenges (after.map Prod.snd)).getLast? with
      | none => rfl
      | some p => exact hsame p hlast

/-- The challenge of a login. -/
def loginChallenge : Crv1 :=
  ⟨lit "R", lit "sid", lit "dQ==", lit "https://idp", by decide, by decide, by decide⟩

/-- The end of the connection, which the client itself asked for, disturbs nothing. -/
theorem waitForSaml_of_disconnected :
    (handleAll { clock := fun _ => ⟨2024, 1, 1, 0, 0, 0⟩ }
      [(⟨2024, 1, 1, 0, 0, 0⟩, .socketProtect (lit "192.0.2.1") false),
        (⟨2024, 1, 1, 0, 0, 1⟩, .event (challengeEvent loginChallenge.render)),
        (⟨2024, 1, 1, 0, 0, 1⟩, .event ⟨lit "DISCONNECTED", []⟩)] {}).waitForSaml =
      .ok ⟨lit "https://idp", lit "sid", lit "192.0.2.1"⟩ := by
  refine (waitForSaml_iff _ [(⟨2024, 1, 1, 0, 0, 0⟩, .socketProtect (lit "192.0.2.1") false)]
    [(⟨2024, 1, 1, 0, 0, 1⟩, .event ⟨lit "DISCONNECTED", []⟩)] ⟨2024, 1, 1, 0, 0, 1⟩ loginChallenge
    (by decide)).2 ⟨fun l ev l' heq hev => ?_, by decide, by decide⟩
  obtain ⟨rfl, hev'⟩ | ⟨r, -, hr⟩ := List.append_eq_cons_iff.1 heq.symm
  · obtain ⟨h, -⟩ := List.cons.inj hev'
    rw [CoreInput.event.inj h] at hev
    exact absurd hev (by decide)
  · simp at hr

/-- A failure delivered before the waiter gets to run takes the place of the
    challenge it was notified of. -/
theorem waitForSaml_of_authFailed :
    let before := handleAll { clock := fun _ => ⟨2024, 1, 1, 0, 0, 0⟩ }
      [(⟨2024, 1, 1, 0, 0, 0⟩, .event (challengeEvent loginChallenge.render))] {}
    let after := handleAll { clock := fun _ => ⟨2024, 1, 1, 0, 0, 0⟩ }
      [(⟨2024, 1, 1, 0, 0, 0⟩, .event (challengeEvent loginChallenge.render)),
        (⟨2024, 1, 1, 0, 0, 1⟩, .event ⟨lit "AUTH_FAILED", []⟩)] {}
    before.waitForSaml = .ok ⟨lit "https://idp", lit "sid", []⟩ ∧
      after.waitForSaml = .error (lit "AUTH_FAILED: ") := by
  decide

end CoreClient

end OpenLawsVpn
