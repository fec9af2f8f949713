import OpenLawsVpn.Core.Client

/-!
# The challenge grammar

A CRV1 challenge is `CRV1:<flags>:<state_id>:<base64_username>:<challenge_text>`:
three fields without colons, and a text that may hold anything (`Crv1`). The
split loop of the client accepts exactly that:

* cutting a text at its first `n` colons is `cut`, which the loop computes
  (`splitFields_eq_cut`);
* the parser accepts exactly the rendered challenges (`parseChallenge_eq_some_iff`),
  whose decomposition is unique (`Crv1.render_injective`).

* `event_challenge_iff`: what the client does for an event with any text, and that it leaves the
  rest of its state;
* `stop_mem_event_challenge_iff`: the core is asked to stop exactly for a challenge.
-/

namespace OpenLawsVpn

/-- A CRV1 challenge, taken apart. -/
@[ext]
structure Crv1 where
  flags : Bytes
  stateId : Bytes
  username : Bytes
  text : Bytes
  colon_notMem_flags : ':'.toUInt8 ∉ flags
  colon_notMem_stateId : ':'.toUInt8 ∉ stateId
  colon_notMem_username : ':'.toUInt8 ∉ username
  deriving DecidableEq

/-- A challenge, as the server sends it. -/
def Crv1.render (m : Crv1) : Bytes :=
  lit "CRV1:" ++ (m.flags ++ ':'.toUInt8 :: (m.stateId ++ ':'.toUInt8 ::
    (m.username ++ ':'.toUInt8 :: m.text)))

/-- A challenge has one decomposition. -/
theorem Crv1.render_injective {m m' : Crv1} (h : m.render = m'.render) : m = m' := by
  rw [render, render, List.append_cancel_left_eq] at h
  obtain ⟨hf, h⟩ := Search.append_cons_inj m.colon_notMem_flags m'.colon_notMem_flags h
  obtain ⟨hs, h⟩ := Search.append_cons_inj m.colon_notMem_stateId m'.colon_notMem_stateId h
  obtain ⟨hu, h⟩ := Search.append_cons_inj m.colon_notMem_username m'.colon_notMem_username h
  exact Crv1.ext hf hs hu h

namespace CoreClient

/-! ## The split loop -/

/-- A text cut at its first `n` colons, as far as it has them. -/
def cut : ℕ → Bytes → List Bytes
  | 0, r => [r]
  | n + 1, r =>
    match Search.find (lit ":") r with
    | none => [r]
    | some i => r.take i :: cut n (r.drop (i + 1))

/-- The loop, with the rest pushed after it, cuts the text from its start
    position on. -/
theorem splitFields_eq_cut (pre r : Bytes) (n : ℕ) (parts : List Bytes) :
    (splitFields (pre ++ r) n parts pre.length).1 ++
        [(pre ++ r).drop (splitFields (pre ++ r) n parts pre.length).2] =
      parts ++ cut n r := by
  induction n generalizing pre r parts with
  | zero => simp [splitFields, cut]
  | succ n ih =>
    rw [splitFields, cut, Search.findFrom_append]
    cases hf : Search.find (lit ":") r with
    | none => simp
    | some i =>
      -- The next round starts after the colon: all before it has been cut off.
      obtain ⟨a, b, rfl, rfl⟩ := Search.find_eq_some hf
      have hnext : a.length + pre.length + 1 = (pre ++ (a ++ lit ":")).length := by
        simp only [List.length_append, show (lit ":").length = 1 from rfl]
        omega
      have hfield : substr (pre ++ (a ++ lit ":" ++ b)) pre.length (a.length + pre.length - pre.length)
          = a := by simp [substr]
      simp only [Option.map_some]
      rw [hfield, hnext, ← List.append_assoc pre, ih]
      simp [lit]

/-- After the first word, three more are cut off. -/
theorem challengeParts_eq (r : Bytes) : challengeParts (lit "CRV1:" ++ r) = cut 3 r :=
  splitFields_eq_cut (lit "CRV1:") r 3 []

/-- A field up to a colon is cut off. -/
theorem cut_field {a : Bytes} (ha : ':'.toUInt8 ∉ a) (n : ℕ) (b : Bytes) :
    cut (n + 1) (a ++ ':'.toUInt8 :: b) = a :: cut n b := by
  rw [cut, show lit ":" = [':'.toUInt8] from rfl, Search.find_singleton ha]
  simp

/-- Cutting off at least one field found a colon. -/
theorem cut_eq_cons_cons {n : ℕ} {r a c : Bytes} {l : List Bytes} (h : cut n r = a :: c :: l) :
    ∃ m b, n = m + 1 ∧ ':'.toUInt8 ∉ a ∧ r = a ++ ':'.toUInt8 :: b ∧ cut m b = c :: l := by
  cases n with
  | zero => simp [cut] at h
  | succ n =>
    by_cases hr : ':'.toUInt8 ∈ r
    · obtain ⟨a', b, rfl, ha'⟩ := List.eq_append_cons_of_mem hr
      rw [cut_field ha', List.cons.injEq] at h
      exact ⟨n, b, rfl, h.1 ▸ ha', by rw [h.1], h.2⟩
    · rw [cut, show lit ":" = [':'.toUInt8] from rfl, Search.find_singleton_eq_none_iff.2 hr] at h
      simp at h

/-! ## The parser -/

/-- The fields of a challenge are read off its text: the state id, and the URL with all its
    colons. -/
theorem parseChallenge_render (m : Crv1) : parseChallenge m.render = some (m.stateId, m.text) := by
  have hparts : challengeParts m.render = [m.flags, m.stateId, m.username, m.text] := by
    rw [Crv1.render, challengeParts_eq, cut_field m.colon_notMem_flags,
      cut_field m.colon_notMem_stateId, cut_field m.colon_notMem_username, cut]
  have hpre : substr m.render 0 5 = lit "CRV1:" := rfl
  rw [parseChallenge, if_pos hpre, hparts]

/-- The parser accepts exactly the challenges of the grammar. -/
theorem parseChallenge_eq_some_iff {info stateId samlUrl : Bytes} :
    parseChallenge info = some (stateId, samlUrl) ↔
      ∃ m : Crv1, m.render = info ∧ m.stateId = stateId ∧ m.text = samlUrl := by
  constructor
  · intro h
    rw [parseChallenge] at h
    split_ifs at h with hpre
    obtain ⟨r, rfl⟩ : ∃ r, info = lit "CRV1:" ++ r :=
      ⟨info.drop 5, by rw [← hpre, substr, List.drop_zero, List.take_append_drop]⟩
    rw [challengeParts_eq] at h
    split at h
    case h_1 f s u x tl hcut =>
      -- Four parts: three colons were found, and there is no fifth part.
      obtain ⟨n, r₁, hn, hf, hr, hcut₁⟩ := cut_eq_cons_cons hcut
      obtain ⟨n', r₂, hn', hs, hr₁, hcut₂⟩ := cut_eq_cons_cons hcut₁
      obtain ⟨n'', r₃, hn'', hu, hr₂, hcut₃⟩ := cut_eq_cons_cons hcut₂
      obtain rfl : n'' = 0 := by omega
      subst hr hr₁ hr₂
      obtain ⟨rfl, -⟩ := List.cons.inj hcut₃
      obtain ⟨rfl, rfl⟩ := Prod.mk.inj (Option.some.inj h)
      exact ⟨⟨f, s, u, r₃, hf, hs, hu⟩, rfl, rfl, rfl⟩
    case h_2 => cases h
  · rintro ⟨m, rfl, rfl, rfl⟩
    exact parseChallenge_render m

/-- A text is refused exactly if it is that of no challenge. -/
theorem parseChallenge_eq_none_iff {info : Bytes} :
    parseChallenge info = none ↔ ¬∃ m : Crv1, m.render = info := by
  constructor
  · rintro h ⟨m, rfl⟩
    rw [parseChallenge_render] at h
    cases h
  · intro h
    by_contra hne
    obtain ⟨⟨s, x⟩, hsx⟩ := Option.ne_none_iff_exists'.1 hne
    obtain ⟨m, hm, -⟩ := parseChallenge_eq_some_iff.1 hsx
    exact h ⟨m, hm⟩

/-! ## The event -/

/-- A `DYNAMIC_CHALLENGE` event. -/
def challengeEvent (info : Bytes) : Event := ⟨lit "DYNAMIC_CHALLENGE", info⟩

/-- The handler of a challenge records its fields, and is done. -/
theorem event_challenge_of_render (level : ℤ) (now : Stamp) (c : CoreClient) (m : Crv1) :
    (c.event level now (challengeEvent m.render)).1 =
      { c with stateId := m.stateId, samlUrl := m.text, done := true } := by
  simp [event, challengeEvent, parseChallenge_render]

/-- A text that is no challenge leaves the core client as it is. -/
theorem event_challenge_of_none (level : ℤ) (now : Stamp) (c : CoreClient) {info : Bytes}
    (h : ¬∃ m : Crv1, m.render = info) :
    (c.event level now (challengeEvent info)).1 = c := by
  simp [event, challengeEvent, parseChallenge_eq_none_iff.2 h]

/-- The core is asked to stop exactly for a challenge of the grammar. -/
theorem stop_mem_event_challenge_iff (level : ℤ) (now : Stamp) (c : CoreClient) (info : Bytes) :
    CoreAction.stop ∈ (c.event level now (challengeEvent info)).2 ↔
      ∃ m : Crv1, m.render = info := by
  by_cases h : ∃ m : Crv1, m.render = info
  · obtain ⟨m, rfl⟩ := h
    simp [event, challengeEvent, parseChallenge_render]
  · have hlog : CoreAction.stop ∉ (c.event level now (challengeEvent info)).2 := by
      simp only [event, challengeEvent, parseChallenge_eq_none_iff.2 h]
      split_ifs <;> simp
    simp [h, hlog]

/-- The client accepts exactly the CRV1 grammar: a challenge of it, whose
    decomposition is unique, sets `done`, the state id and the URL and stops the
    core, and any other text leaves the client as it was. -/
theorem event_challenge_iff (level : ℤ) (now : Stamp) (c : CoreClient) (info : Bytes) :
    let r := c.event level now (challengeEvent info)
    (CoreAction.stop ∈ r.2 ↔ ∃ m : Crv1, m.render = info) ∧
      (c.done = false → (r.1.done = true ↔ ∃ m : Crv1, m.render = info)) ∧
      (∀ m : Crv1, m.render = info →
        r.1 = { c with stateId := m.stateId, samlUrl := m.text, done := true } ∧
          ∀ m' : Crv1, m'.render = info → m' = m) ∧
      ((¬∃ m : Crv1, m.render = info) → r.1 = c) := by
  refine ⟨stop_mem_event_challenge_iff level now c info, fun hdone => ?_, ?_,
    event_challenge_of_none level now c⟩
  · by_cases h : ∃ m : Crv1, m.render = info
    · obtain ⟨m, rfl⟩ := h
      simp [event_challenge_of_render]
    · simp [event_challenge_of_none level now c h, h, hdone]
  · rintro m rfl
    exact ⟨event_challenge_of_render level now c m, fun m' => Crv1.render_injective⟩

end CoreClient

end OpenLawsVpn
