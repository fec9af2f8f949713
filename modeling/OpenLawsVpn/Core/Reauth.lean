import OpenLawsVpn.Core.Verdict

/-!
# The need of a new login

`wait_for_disconnect` returns at the end of a session, with the answer whether
the user has to log in again. The answer is a latch of the core client, set by
any request of credentials after the *first* connection:

* what was delivered is cut at the session that ended (`EndedSession`), the last
  one before the first `DISCONNECTED` after a `CONNECTED`;
* a request in an earlier session, which a reconnect overcame, is not forgotten,
  and one after the end of the session counts as well (`requested_iff`);
* so the answer is that of the session that ended exactly if there is a request
  in it, or none anywhere else (`answer_iff`).

* `EndedSession`: the inputs, cut at the session that ended, with the proofs that the cut is right,
  so that the statement is about all inputs with an end;
* `answer_iff`: the criterion;
* `answer_of_overcome`: a login is asked for that the session did not need.
-/

namespace OpenLawsVpn

/-- The names of the events delivered, cut at the session that ended: it goes from
    the last `CONNECTED` before the first `DISCONNECTED` after a `CONNECTED` to
    that `DISCONNECTED`. -/
structure EndedSession (names : List Bytes) where
  before : List Bytes
  session : List Bytes
  after : List Bytes
  eq : names = before ++ lit "CONNECTED" :: session ++ lit "DISCONNECTED" :: after
  last : lit "CONNECTED" ∉ session
  first : ¬List.Sublist [lit "CONNECTED", lit "DISCONNECTED"] (before ++ lit "CONNECTED" :: session)

namespace EndedSession

variable {names : List Bytes}

/-- Credentials were asked for in the session. -/
def Asks (s : EndedSession names) : Prop := ∃ name ∈ s.session, IsRequest name

/-- Credentials were asked for neither between the first connection and the
    session, nor after it. -/
def Alone (s : EndedSession names) : Prop :=
  ¬Requested s.before ∧ ∀ name ∈ s.after, ¬IsRequest name

instance (s : EndedSession names) : Decidable s.Asks :=
  inferInstanceAs (Decidable (∃ name ∈ s.session, IsRequest name))

/-- A session ended exactly if there was a connection, and an end after it. -/
theorem nonempty_iff :
    Nonempty (EndedSession names) ↔ List.Sublist [lit "CONNECTED", lit "DISCONNECTED"] names := by
  constructor
  · rintro ⟨s⟩
    rw [s.eq, List.append_assoc, List.cons_append]
    exact (((List.nil_sublist _).cons_cons _ |>.trans (List.sublist_append_right _ _)).cons_cons
      _).trans (List.sublist_append_right _ _)
  · intro h
    induction names using List.reverseRecOn with
    | nil => simp at h
    | append_singleton l name ih =>
      by_cases hl : List.Sublist [lit "CONNECTED", lit "DISCONNECTED"] l
      · -- The session ended before.
        obtain ⟨s⟩ := ih hl
        exact ⟨⟨s.before, s.session, s.after ++ [name], by simp [s.eq], s.last, s.first⟩⟩
      · -- It ends here, and goes back to the last connection.
        obtain ⟨hmem, rfl⟩ := (Latch.pair_sublist_append.1 h).resolve_left hl
        obtain ⟨r, r', hr, hlast⟩ := List.eq_append_cons_of_mem (List.mem_reverse.2 hmem)
        have hl' : l = r'.reverse ++ lit "CONNECTED" :: r.reverse := by
          rw [← List.reverse_reverse l, hr]
          simp
        exact ⟨⟨r'.reverse, r.reverse, [], by rw [← hl'], by simpa using hlast, hl' ▸ hl⟩⟩

/-- The requests, by where they are delivered. -/
theorem requested_iff (s : EndedSession names) :
    Requested names ↔ Requested s.before ∨ s.Asks ∨ ∃ name ∈ s.after, IsRequest name := by
  have hne : ∀ name, IsRequest name → name ≠ lit "CONNECTED" ∧ name ≠ lit "DISCONNECTED" := by
    rintro name (rfl | rfl) <;> decide
  -- The session starts at a connection, and a request is neither end of it.
  have hsub : ∀ name, IsRequest name → (List.Sublist [lit "CONNECTED", name] names ↔
      List.Sublist [lit "CONNECTED", name] s.before ∨ name ∈ s.session ∨ name ∈ s.after) := by
    intro name hname
    have hcut : List.Sublist [lit "CONNECTED", name] names ↔ List.Sublist [lit "CONNECTED", name]
        (s.before ++ lit "CONNECTED" :: (s.session ++ lit "DISCONNECTED" :: s.after)) := by
      rw [← List.cons_append, ← List.append_assoc, ← s.eq]
    rw [hcut, Latch.pair_sublist_append_cons (hne name hname).1, List.mem_append, List.mem_cons,
      or_iff_right (hne name hname).2]
  constructor
  · rintro ⟨name, hname, h⟩
    rcases (hsub name hname).1 h with h | h | h
    · exact .inl ⟨name, hname, h⟩
    · exact .inr (.inl ⟨name, h, hname⟩)
    · exact .inr (.inr ⟨name, h, hname⟩)
  · rintro (⟨name, hname, h⟩ | ⟨name, h, hname⟩ | ⟨name, h, hname⟩)
    · exact ⟨name, hname, (hsub name hname).2 (.inl h)⟩
    · exact ⟨name, hname, (hsub name hname).2 (.inr (.inl h))⟩
    · exact ⟨name, hname, (hsub name hname).2 (.inr (.inr h))⟩

end EndedSession

namespace CoreClient

/-- After the end of a session the wait returns, with the latch. -/
theorem waitForFinalDisconnect_handleAll (settings : Settings) (inputs : List (Stamp × CoreInput))
    (s : EndedSession (eventNames (inputs.map Prod.snd))) :
    (handleAll settings inputs {}).waitForFinalDisconnect =
      some (handleAll settings inputs {}).needReauth := by
  have htracks := (Recorded.init.handleAll settings inputs).tracks
  rw [waitForFinalDisconnect, if_pos]
  exact htracks.final.2 (EndedSession.nonempty_iff.1 ⟨s⟩)

/-- The answer is whether the session that ended asked for credentials, exactly if
    it did, or nothing else did. -/
theorem answer_iff (settings : Settings) (inputs : List (Stamp × CoreInput)) :
    let names := eventNames (inputs.map Prod.snd)
    (Nonempty (EndedSession names) ↔
      List.Sublist [lit "CONNECTED", lit "DISCONNECTED"] names) ∧
    ∀ s : EndedSession names,
      (handleAll settings inputs {}).waitForFinalDisconnect = some (decide s.Asks) ↔
        s.Asks ∨ s.Alone := by
  intro names
  refine ⟨EndedSession.nonempty_iff, fun s => ?_⟩
  have hneed := needReauth_handleAll settings inputs
  rw [s.requested_iff] at hneed
  rw [waitForFinalDisconnect_handleAll settings inputs s, Option.some.injEq, Bool.eq_iff_iff, hneed,
    decide_eq_true_iff, EndedSession.Alone]
  constructor
  · intro h
    -- A request that is told of is one of the session, or one before or after it.
    by_cases hasks : s.Asks
    · exact .inl hasks
    · exact .inr ⟨fun hbefore => hasks (h.1 (.inl hbefore)),
        fun name hname hrequest => hasks (h.1 (.inr (.inr ⟨name, hname, hrequest⟩)))⟩
  · rintro (hasks | ⟨hbefore, hafter⟩)
    · exact iff_of_true (.inr (.inl hasks)) hasks
    · refine ⟨?_, fun hasks => .inr (.inl hasks)⟩
      rintro (h | h | ⟨name, hname, hrequest⟩)
      · exact absurd h hbefore
      · exact h
      · exact absurd hrequest (hafter name hname)

/-- A login is asked for, though a reconnect had overcome the request: the session
    that ended asked for nothing. -/
theorem answer_of_overcome :
    let inputs : List (Stamp × CoreInput) :=
      [(⟨2024, 1, 1, 9, 0, 0⟩, .event ⟨lit "CONNECTED", []⟩),
        (⟨2024, 1, 1, 9, 5, 0⟩, .event ⟨lit "NEED_CREDS", []⟩),
        (⟨2024, 1, 1, 9, 6, 0⟩, .event ⟨lit "CONNECTED", []⟩),
        (⟨2024, 1, 1, 17, 0, 0⟩, .event ⟨lit "DISCONNECTED", []⟩)]
    (handleAll { clock := fun _ => ⟨2024, 1, 1, 9, 0, 0⟩ } inputs {}).waitForFinalDisconnect =
        some true ∧
      ∃ s : EndedSession (eventNames (inputs.map Prod.snd)),
        s.before = [lit "CONNECTED", lit "NEED_CREDS"] ∧ s.after = [] ∧ ¬s.Asks :=
  ⟨by decide, ⟨[lit "CONNECTED", lit "NEED_CREDS"], [], [], by decide, by decide, by decide⟩,
    rfl, rfl, by decide⟩

end CoreClient

end OpenLawsVpn
