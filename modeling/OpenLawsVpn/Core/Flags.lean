import OpenLawsVpn.Client
import OpenLawsVpn.Lib.Latch

/-!
# The flags of the core client

The core client knows the connection by two flags: `connected` is set by a
`CONNECTED`, and `finalDisconnect` by a `DISCONNECTED` after it. Both stay set,
so they are read off what was delivered to the client (`Tracks`), whatever else
was delivered in between.

* `Tracks`: the flags are those of the inputs delivered so far, kept by every one of them;
* `Ended`: the connection of these inputs came up and ended, in this order;
* `event_connected`, `event_finalDisconnect`: what an event does to each of them;
* `Tracks.handle`: so every input keeps them in step.
-/

namespace OpenLawsVpn

/-- The names of the events delivered. -/
def eventNames (inputs : List CoreInput) : List Bytes :=
  inputs.filterMap fun
    | .event ev => some ev.name
    | _ => none

/-- A connection was established, and ended later. -/
def Ended (inputs : List CoreInput) : Prop :=
  List.Sublist [lit "CONNECTED", lit "DISCONNECTED"] (eventNames inputs)

theorem stays_ended : Latch.Stays Ended := fun l i h => by
  rw [Ended, eventNames, List.filterMap_append]
  exact h.trans (List.sublist_append_left _ _)

namespace CoreClient

variable (level : ℤ) (now : Stamp) (ev : Event) (core : CoreClient)

/-- Only `CONNECTED` sets this flag, and nothing clears it. -/
theorem event_connected :
    (core.event level now ev).1.connected = true ↔
      core.connected = true ∨ ev.name = lit "CONNECTED" := by
  unfold event
  generalize (if 0 < level then [CoreAction.log (eventLine now ev)] else []) = log
  dsimp only
  by_cases hchallenge : ev.name = lit "DYNAMIC_CHALLENGE"
  · have hname : ev.name ≠ lit "CONNECTED" := by rw [hchallenge]; decide
    rw [if_pos hchallenge]
    cases parseChallenge ev.info <;> simp [hname]
  · rw [if_neg hchallenge]
    split_ifs <;> simp_all +decide

/-- Only a `DISCONNECTED` after a connection sets this flag. -/
theorem event_finalDisconnect :
    (core.event level now ev).1.finalDisconnect = true ↔
      core.finalDisconnect = true ∨ core.connected = true ∧ ev.name = lit "DISCONNECTED" := by
  unfold event
  generalize (if 0 < level then [CoreAction.log (eventLine now ev)] else []) = log
  dsimp only
  by_cases hchallenge : ev.name = lit "DYNAMIC_CHALLENGE"
  · have hname : ev.name ≠ lit "DISCONNECTED" := by rw [hchallenge]; decide
    rw [if_pos hchallenge]
    cases parseChallenge ev.info <;> simp [hname]
  · rw [if_neg hchallenge]
    split_ifs <;> simp_all +decide

/-- What a socket and a line of log change: the remote address at most. -/
theorem handle_of_not_event (settings : Settings) {input : CoreInput}
    (h : ∀ ev, input ≠ .event ev) :
    (core.handle settings now input).1.connected = core.connected ∧
      (core.handle settings now input).1.finalDisconnect = core.finalDisconnect := by
  cases input with
  | event ev => exact absurd rfl (h ev)
  | log text => exact ⟨rfl, rfl⟩
  | socketProtect remote ipv6 =>
    simp only [handle, socketProtect]
    cases settings.socketProtect <;> dsimp only <;> split_ifs <;> exact ⟨rfl, rfl⟩

end CoreClient

/-- The flags of a core client, by what was delivered to it. -/
structure Tracks (inputs : List CoreInput) (core : CoreClient) : Prop where
  connected : core.connected = true ↔ lit "CONNECTED" ∈ eventNames inputs
  final : core.finalDisconnect = true ↔ Ended inputs

theorem Tracks.init : Tracks [] {} where
  connected := by simp [eventNames]
  final := by simp [Ended, eventNames]

/-- Every input keeps the flags in step with the names of the events. -/
theorem Tracks.handle {inputs : List CoreInput} {core : CoreClient} (h : Tracks inputs core)
    (settings : Settings) (now : Stamp) (input : CoreInput) :
    Tracks (inputs ++ [input]) (core.handle settings now input).1 := by
  by_cases hev : ∃ ev, input = .event ev
  · obtain ⟨ev, rfl⟩ := hev
    have hnames : eventNames (inputs ++ [.event ev]) = eventNames inputs ++ [ev.name] := by
      simp [eventNames]
    constructor
    · rw [CoreClient.handle, CoreClient.event_connected, h.connected, hnames, List.mem_append,
        List.mem_singleton, eq_comm (b := ev.name)]
    · rw [CoreClient.handle, CoreClient.event_finalDisconnect, h.final, h.connected, Ended, Ended,
        hnames, Latch.pair_sublist_append, eq_comm (a := ev.name)]
  · have hnot : ∀ ev, input ≠ .event ev := fun ev hinput => hev ⟨ev, hinput⟩
    obtain ⟨hconnected, hfinal⟩ := core.handle_of_not_event now settings hnot
    have hnames : eventNames (inputs ++ [input]) = eventNames inputs := by
      cases input with
      | event ev => exact absurd rfl (hnot ev)
      | log text => simp [eventNames]
      | socketProtect remote ipv6 => simp [eventNames]
    constructor
    · rw [hconnected, h.connected, hnames]
    · rw [hfinal, h.final, Ended, Ended, hnames]

end OpenLawsVpn
