import OpenLawsVpn.Gui.Actions
import OpenLawsVpn.Gui.SamlServer

/-!
# The end of a Connect

The task of a Connect passes four texts to the library as C strings, which panics
for a text with a NUL in it: the path of the profile, the state id, the token and
the remote address. The state id and the address were C strings before, and have
none (`nul_notMem_phase1Text`). The token comes from the browser, and may have one:
the capture server decodes what is posted once more, and drops nothing.

So the task comes to its end for any result of Phase 1 and any requests, exactly
if the path has no NUL, and neither has the text of the first request that sends
one, decoded, in case the token is used (`finishes_iff`).

* `phase1Text`: a C string as the GUI takes it over;
* `afterPhase1_of_token`: what follows once a token was captured;
* `finishes_attempt_iff`: the criterion for what the steps result in;
* `SamlServer.finishes_iff`: the criterion for the requests of the browser;
* `SamlServer.panics_of_nul`: a page that posts `SAMLResponse=%00`.
-/

namespace OpenLawsVpn

namespace ServiceAction

/-- The action ends the task of a Connect as it should be: Phase 2 is run, or an
    error is reported. -/
def EndsTask (a : ServiceAction) : Prop :=
  (∃ id stateId token remoteIp, a = .connectPhase2 id stateId token remoteIp) ∨
    ∃ e, a = .emit (.stateChanged (.error e))

end ServiceAction

/-- Phase 1 resulted in a URL and a state id. -/
def Phase1ResultC.IsChallenge (r : Phase1ResultC) : Prop :=
  Service.phase1Text r.samlUrl ≠ [] ∧ Service.phase1Text r.stateId ≠ []

namespace Service

/-- The task runs to its end without a panic. -/
def Finishes (actions : List ServiceAction) : Prop :=
  .panic ∉ actions ∧ ∃ a, actions.getLast? = some a ∧ a.EndsTask

/-- The text of a C string has no NUL. -/
theorem nul_notMem_phase1Text (s : Option CString) : '\x00' ∉ phase1Text s := by
  cases s with
  | none => exact List.not_mem_nil
  | some s =>
    intro hmem
    obtain ⟨b, hb, heq⟩ := Utf8.mem_of_mem_decode (show Utf8.State.Sound .start from trivial)
      hmem (by decide)
    have hvalid : b.toNat.isValidChar := .inl (by have := b.toNat_lt; omega)
    have hzero : b.toNat = 0 := by
      rw [← Utf8.toNat_ofNat hvalid, ← heq]
      rfl
    exact s.nul_notMem (UInt8.toNat_inj.1 (hzero.trans UInt8.toNat_zero.symm) ▸ hb)

/-- What follows Phase 1, once it resulted in a challenge and a token was captured. -/
theorem afterPhase1_of_token (id : ℕ) {r : Phase1ResultC} (hr : r.IsChallenge)
    (token : Text) :
    afterPhase1 id ⟨r, .ok token⟩ =
      [.openBrowser (phase1Text r.samlUrl),
        .emit (.stateChanged (.waitingSaml (phase1Text r.samlUrl))),
        .emit (.stateChanged .connecting),
        if '\x00' ∈ token then .panic
        else .connectPhase2 id (phase1Text r.stateId) token (phase1Text r.remoteIp)] := by
  have hnul : ('\x00' ∈ phase1Text r.stateId ∨ '\x00' ∈ token ∨ '\x00' ∈ phase1Text r.remoteIp) ↔
      '\x00' ∈ token := by
    simp only [nul_notMem_phase1Text, false_or, or_false]
  rw [afterPhase1]
  simp only [if_neg (not_or.2 hr), if_congr hnul rfl rfl]
  split_ifs <;> rfl

/-- An attempt ends with a final change exactly if no captured token has a NUL in it, which would
    make the task panic. -/
theorem finishes_attempt_iff (id : ℕ) (o : ConnectOutcome) :
    Finishes (attempt id o) ↔
      (o.phase1.IsChallenge → ∀ token, o.capture = .ok token → '\x00' ∉ token) := by
  obtain ⟨r, capture⟩ := o
  by_cases hr : r.IsChallenge
  · cases capture with
    | error e =>
      refine iff_of_true ⟨?_, ?_⟩ fun _ token heq => (by cases heq)
      · rw [attempt, afterPhase1]
        simp [not_or.2 hr]
      · refine ⟨_, ?_, .inr ⟨"SAML login failed: ".toList ++ e, rfl⟩⟩
        rw [attempt, afterPhase1]
        simp [not_or.2 hr]
    | ok token =>
      rw [attempt, afterPhase1_of_token id hr]
      -- A NUL in the token makes `CString::new` fail, and its `unwrap` panic.
      by_cases hnul : '\x00' ∈ token
      · rw [if_pos hnul]
        exact iff_of_false (fun h => h.1 (by simp)) fun h => h hr token rfl hnul
      · rw [if_neg hnul]
        refine iff_of_true ⟨by simp, _, rfl, .inl ⟨_, _, _, _, rfl⟩⟩ fun _ token' heq => ?_
        rwa [← Except.ok.inj heq]
  · refine iff_of_true ⟨?_, ?_⟩ fun h => absurd h hr
    all_goals
      rw [Phase1ResultC.IsChallenge, ← not_or, not_not] at hr
      rw [attempt, afterPhase1, if_pos hr]
    · simp
    · exact ⟨_, rfl, .inr ⟨_, rfl⟩⟩

end Service

open Service SamlServer

variable {decode : Text → Option Text}

/-- A NUL in the token is one in the decoded text: what is padded has no more. -/
theorem SamlServer.nul_mem_normalizeBase64_iff {raw : Text} :
    '\x00' ∈ normalizeBase64 decode raw ↔ '\x00' ∈ (decode raw).getD raw := by
  rw [normalizeBase64, List.mem_append, List.mem_map]
  constructor
  · rintro (⟨c, hc, heq⟩ | hpadding)
    · split_ifs at heq with hspace
      · exact absurd heq (by decide)
      · rwa [← heq]
    · exact absurd (List.eq_of_mem_replicate hpadding) (by decide)
  · exact fun h => .inl ⟨_, h, rfl⟩

/-- The token captured has no NUL exactly if the text sent first has none, once it is
    decoded. -/
theorem SamlServer.nul_notMem_capture_iff {bind : Except Text Unit} {requests : List Request}
    {timedOut : Bool} {capture : Except Text Text}
    (h : captureSamlToken decode bind requests timedOut = some capture) :
    (∀ token, capture = .ok token → '\x00' ∉ token) ↔
      (bind = .ok () → ∀ raw, requests.findSome? Request.sent = some raw →
        '\x00' ∉ (decode raw).getD raw) := by
  cases bind with
  | error e =>
    obtain rfl := Option.some.inj h
    exact iff_of_true (fun token heq => by cases heq) fun heq => by cases heq
  | ok =>
    rw [captureSamlToken, received_foldl_handle] at h
    cases hraw : requests.findSome? Request.sent with
    | none =>
      rw [hraw] at h
      cases timedOut
      · cases h
      · obtain rfl := Option.some.inj h
        exact iff_of_true (fun token heq => by cases heq) fun _ raw heq => by cases heq
    | some raw =>
      rw [hraw] at h
      obtain rfl := Option.some.inj h
      simp [nul_mem_normalizeBase64_iff]

/-- A Connect runs to its end, by Phase 2 or an error, exactly if no text with a NUL
    gets to the library: the path has none, nor has what the first request sends,
    decoded, if there is a challenge to answer. -/
theorem SamlServer.finishes_iff (s : Service) (configPath : Text) (phase1 : Phase1ResultC)
    (bind : Except Text Unit) (requests : List Request) (timedOut : Bool)
    (capture : Except Text Text)
    (h : captureSamlToken decode bind requests timedOut = some capture) :
    Finishes (s.actions (.connect configPath ⟨phase1, capture⟩)) ↔
      '\x00' ∉ configPath ∧ (phase1.IsChallenge → bind = .ok () → ∀ raw,
        requests.findSome? Request.sent = some raw → '\x00' ∉ (decode raw).getD raw) := by
  rw [actions]
  by_cases hpath : '\x00' ∈ configPath
  · rw [if_pos hpath]
    exact iff_of_false (fun hf => hf.1 List.mem_cons_self) fun hc => hc.1 hpath
  · rw [if_neg hpath, and_iff_right hpath, ← nul_notMem_capture_iff h, ← finishes_attempt_iff
      s.created ⟨phase1, capture⟩]
    have hne : attempt s.created ⟨phase1, capture⟩ ≠ [] := List.cons_ne_nil _ _
    rw [Finishes, Finishes, List.getLast?_append_of_ne_nil _ hne]
    simp

/-- A challenge of Phase 1. -/
def challengeC : Phase1ResultC :=
  ⟨some ⟨lit "https://login.example", by decide⟩, some ⟨lit "state7", by decide⟩, none⟩

/-- The token posted as usual. -/
theorem SamlServer.finishes_of_token :
    Finishes (({} : Service).actions
      (.connect "a.ovpn".toList ⟨challengeC, .ok "YQ==".toList⟩)) := by
  have hcapture : captureSamlToken some (.ok ()) [.post { samlResponse := some "YQ==".toList }] false =
      some (.ok "YQ==".toList) := by decide
  refine (finishes_iff {} "a.ovpn".toList challengeC _ _ _ _ hcapture).2
    ⟨by decide, fun _ _ raw hraw => ?_⟩
  obtain rfl := Option.some.inj hraw
  decide

/-- A page posts the form `SAMLResponse=%00`: the task panics after the token, and
    neither Phase 2 nor an error is seen. The text has no escape left to decode. -/
theorem SamlServer.panics_of_nul :
    let token := ['\x00', '=', '=', '=']
    let actions := ({} : Service).actions (.connect "a.ovpn".toList ⟨challengeC, .ok token⟩)
    captureSamlToken some (.ok ()) [.post { samlResponse := some ['\x00'] }] false =
        some (.ok token) ∧
      actions.getLast? = some .panic ∧ ¬Finishes actions :=
  ⟨by decide, by decide, fun h => h.1 (by decide)⟩

end OpenLawsVpn
