import OpenLawsVpn.Cli.Rounds
import OpenLawsVpn.Handed

/-!
# The credentials of the CLI

A password that leaves the program is either the one that provokes a challenge, or the
answer to a challenge: it goes back to the login in which the challenge arrived, and its
token was received in this login. No answer is kept for a later one.

In direct mode the core is given both in turn, once for each Phase 1 that returns
(`Gives`). In D-Bus mode it is never given an answer: the session is, and nothing else
(`credentials_tryConnect`).

* `Round.Answers`: a password is the answer to the challenge of the round, with its token;
* `Gives`: what the core is given in the logins so far, by the mode and how far the last one got;
* `wp_doConnect_handed`: one login adds what it should to the account;
* `credentials_tryConnect`: the account of a whole run, which counts the logins in its trace.
-/

namespace OpenLawsVpn

open Wp

/-- The password answers a challenge of the round, with a token received in it. -/
def Round.Answers (round : Round) (pw : Bytes) : Prop :=
  ∃ result token, round.phase1.Challenges result ∧ round.capture.Received token ∧
    pw = password result.stateId token

/-- Phase 1 returns. -/
def MainAction.isPhase1 : MainAction → Bool
  | .phase1 _ => true
  | _ => false

/-- The passwords that the core is given in the rounds, in which Phase 1 returns as often as the
    number says: one probe for each time, and one for a Phase 1 that does not return, unless it
    fails before. -/
inductive Gives (mode : ConnectMode) : ℕ → List Round → List Bytes → Prop
  /-- No Phase 1 gets as far as the credentials. -/
  | nothing (rounds : List Round) : Gives mode 0 rounds []
  /-- The last Phase 1 does not return. -/
  | probe (round : Round) (rounds : List Round) : Gives mode 0 (round :: rounds) [probe]
  /-- The last challenge is not answered. -/
  | unanswered (round : Round) (rounds : List Round) :
    Gives mode 1 (round :: rounds) [OpenLawsVpn.probe]
  | direct {round : Round} {n : ℕ} {rounds : List Round} {pw : Bytes} {passwords : List Bytes}
    (hmode : mode = .direct) (hpw : round.Answers pw) (h : Gives mode n rounds passwords) :
    Gives mode (n + 1) (round :: rounds) (OpenLawsVpn.probe :: pw :: passwords)
  | dbus {round : Round} {n : ℕ} {rounds : List Round} {passwords : List Bytes}
    (hmode : mode = .dbus) (h : Gives mode n rounds passwords) :
    Gives mode (n + 1) (round :: rounds) (OpenLawsVpn.probe :: passwords)

namespace Cli

variable {env : MainEnvironment} {mode : ConnectMode} {passwords : List Bytes} {P : Bytes → Prop}
  {s : Cli}

/-- The number of times that Phase 1 has returned. -/
def logins (s : Cli) : ℕ := s.trace.countP MainAction.isPhase1

theorem logins_push (a : MainAction) (s : Cli) :
    (s.push a).logins = s.logins + if a.isPhase1 then 1 else 0 := by
  rw [logins, Cli.push, List.countP_append, List.countP_singleton, logins]

@[simp]
theorem logins_withClient (client : OpenVPNClient) (s : Cli) :
    ({ s with client } : Cli).logins = s.logins := rfl

@[simp]
theorem logins_receive (inputs : List OpenVPNClient.Input) (s : Cli) :
    (s.receive env inputs).logins = s.logins := rfl

@[simp]
theorem logins_line (text : Bytes) (s : Cli) : (s.line env text).logins = s.logins :=
  logins_push _ s

@[simp]
theorem logins_browse (system : Bytes → ℤ) (url : Bytes) (s : Cli) :
    (s.browse env system url).logins = s.logins := by
  rw [logins, Cli.browse, List.countP_append, List.countP_map]
  exact congrArg (s.logins + ·) (List.countP_eq_zero.2 fun _ _ => Bool.false_ne_true)

/-- What is handed over after Phase 1 has returned `n` times belongs to the rounds. -/
def Continues (mode : ConnectMode) (passwords : List Bytes) (P : Bytes → Prop) (n : ℕ)
    (rounds : List Round) (s : Cli) : Prop :=
  ∃ new later, s.client.Handed mode (passwords ++ new) P ∧ s.logins = n + later ∧
    Gives mode later rounds new

theorem continues_of_handed (h : s.client.Handed mode passwords P) (rounds : List Round) :
    Continues mode passwords P s.logins rounds s :=
  ⟨[], 0, (List.append_nil passwords).symm ▸ h, rfl, .nothing rounds⟩

/-- A login, and what is handed over after it. -/
theorem Continues.after {new : List Bytes} {round : Round} {rounds : List Round} {n : ℕ}
    (h : Continues mode (passwords ++ new) P (n + 1) rounds s)
    (hnew : ∀ later passwords, Gives mode later rounds passwords →
      Gives mode (later + 1) (round :: rounds) (new ++ passwords)) :
    Continues mode passwords P n (round :: rounds) s := by
  obtain ⟨passwords', later, h, hlogins, hgives⟩ := h
  rw [List.append_assoc] at h
  refine ⟨new ++ passwords', later + 1, h, ?_, hnew later passwords' hgives⟩
  rw [hlogins, Nat.add_right_comm, Nat.add_assoc]

/-- In direct mode, the answer follows; in D-Bus mode, the session is provided with it. -/
theorem wp_doConnect_handed {round : Round} (rounds : List Round)
    (h : s.client.Handed mode passwords P) (hP : ∀ pw, round.Answers pw → P (cStr pw)) :
    wp (doConnect env round)
      (fun _ s' => ∃ new, s'.client.Handed mode (passwords ++ new) P ∧
        s'.logins = s.logins + 1 ∧ ∀ later passwords, Gives mode later rounds passwords →
          Gives mode (later + 1) (round :: rounds) (new ++ passwords))
      (fun _ s' => Continues mode passwords P s.logins (round :: rounds) s') s := by
  simp only [doConnect, wp_bind, wp_modify, wp_library]
  refine wp_mono (wp_and (h.wp_connectPhase1 round.phase1)
    (OpenVPNClient.wp_connectPhase1_challenge _ round.phase1 _)) (fun result client hphase1 => ?_)
    fun e client hphase1 => ?_
  -- Phase 1 does not return: it gives the probe, or nothing.
  swap
  · obtain ⟨h | h, -⟩ := hphase1
    · exact ⟨[], 0, (List.append_nil passwords).symm ▸ h, by simp, .nothing _⟩
    · exact ⟨[probe], 0, h, by simp, .probe round rounds⟩
  obtain ⟨h, hresult⟩ := hphase1
  have h := h.receiveAll (s.settings env) round.login
  -- Without a token, the probe stays without an answer.
  refine wp_getToken (fun token htoken _ => ?_) fun e _ =>
    ⟨[probe], 1, h, by simp [logins_push, MainAction.isPhase1], .unanswered round rounds⟩
  have hanswers : round.Answers (password result.stateId token) :=
    ⟨result, token, hresult, htoken, rfl⟩
  refine wp_mono (h.wp_connectPhase2 (hP _ hanswers) result.remoteIp round.phase2)
    (fun _ client h => ?_) fun e client h => ?_
  · obtain ⟨hmode, h⟩ | ⟨hmode, h⟩ := h
    · rw [List.append_assoc] at h
      exact ⟨_, h, by simp [logins_push, MainAction.isPhase1],
        fun later passwords hlater => .direct hmode hanswers hlater⟩
    · exact ⟨_, h, by simp [logins_push, MainAction.isPhase1],
        fun later passwords hlater => .dbus hmode hlater⟩
  · obtain h | ⟨hmode, h⟩ := h
    · exact ⟨[probe], 1, h, by simp [logins_push, MainAction.isPhase1],
        .unanswered round rounds⟩
    · rw [List.append_assoc] at h
      exact ⟨_, 1, h, by simp [logins_push, MainAction.isPhase1],
        .direct hmode hanswers (.nothing rounds)⟩

/-- While the program waits, nothing is handed over. -/
theorem wp_waitForDisconnect_handed {session : List OpenVPNClient.Input}
    (h : s.client.Handed mode passwords P) :
    wp (waitForDisconnect env session)
      (fun _ s' => s'.client.Handed mode passwords P ∧ s'.logins = s.logins)
      (fun _ s' => s'.client.Handed mode passwords P ∧ s'.logins = s.logins) s := by
  simp only [waitForDisconnect, wp_bind, wp_modify, wp_get]
  have h := h.receiveAll (s.settings env) session
  split
  · exact ⟨h, rfl⟩
  · exact ⟨h, logins_push _ _⟩

/-- What the logins to come hand over belongs to their rounds. -/
theorem wp_reconnect_handed {session : List OpenVPNClient.Input} {rounds : List Round}
    (h : s.client.Handed mode passwords P) (hP : ∀ r ∈ rounds, ∀ pw, r.Answers pw → P (cStr pw)) :
    wp (reconnect env session rounds) (fun _ s' => Continues mode passwords P s.logins rounds s')
      (fun _ s' => Continues mode passwords P s.logins rounds s') s := by
  have hends : ∀ {s' : Cli} {rounds : List Round}, s'.client.Handed mode passwords P →
      s'.logins = s.logins → Continues mode passwords P s.logins rounds s' :=
    fun h hlogins => hlogins ▸ continues_of_handed h _
  -- Each round hands over one login; what is left is the induction hypothesis.
  induction rounds generalizing session passwords s with
  | nil =>
    rw [reconnect, wp_bind]
    refine wp_mono (wp_waitForDisconnect_handed h) (fun needReauth s' h => ?_)
      fun _ _ h => hends h.1 h.2
    cases needReauth with
    | false => exact hends h.1 h.2
    | true =>
      -- Without a round, the program waits for the browser for ever.
      have hlogins : (s'.line env (lit " Session expired. Re-authenticating via SAML...")).logins =
          s.logins := (logins_line _ _).trans h.2
      exact hends h.1 hlogins
  | cons round rounds ih =>
    rw [reconnect, wp_bind]
    refine wp_mono (wp_waitForDisconnect_handed h) (fun needReauth s' h => ?_)
      fun _ _ h => hends h.1 h.2
    cases needReauth with
    | false => exact hends h.1 h.2
    | true =>
      obtain ⟨h, hlogins⟩ := h
      simp only [if_true, wp_bind, wp_modify]
      have hdo : wp (doConnect env round) _ _
          (s'.line env (lit " Session expired. Re-authenticating via SAML...")) :=
        wp_doConnect_handed rounds h (hP round List.mem_cons_self)
      rw [logins_line, hlogins] at hdo
      refine wp_mono hdo (fun _ s'' h => ?_) fun _ _ h => h
      obtain ⟨new, h, hlogins, hgives⟩ := h
      have hrest : wp (reconnect env round.session rounds) _ _
          (s''.line env (lit " Tunnel is up.")) :=
        ih h (fun r hr => hP r (List.mem_cons_of_mem _ hr))
          fun h hlogins => hlogins ▸ continues_of_handed h _
      rw [logins_line, hlogins] at hrest
      exact wp_mono hrest (fun _ _ h => h.after hgives) fun _ _ h => h.after hgives

/-- The core is given one probe for each Phase 1 that returns, followed in direct mode by the
    answer to its challenge, unless it is the last; and at most one more probe. The last session
    is provided with nothing but answers of a login, and only in D-Bus mode. -/
theorem credentials_tryConnect (env : MainEnvironment) (configFile : Bytes) (args : List Bytes)
    (round : Round) (rounds : List Round) :
    let s := endState (tryConnect env args round rounds { client := { configPath := configFile } })
    Gives s.client.mode s.logins (round :: rounds) (given s.client.trace) ∧
      ∀ d, s.client.dbus = some d → s.client.mode = .dbus ∧
        ∀ v ∈ provided d.trace, ∃ r ∈ round :: rounds, ∃ pw, r.Answers pw ∧ v = cStr pw := by
  intro s
  let P (v : Bytes) : Prop := ∃ r ∈ round :: rounds, ∃ pw, r.Answers pw ∧ v = cStr pw
  have hP : ∀ r ∈ round :: rounds, ∀ pw, r.Answers pw → P (cStr pw) :=
    fun r hr pw hpw => ⟨r, hr, pw, hpw, rfl⟩
  obtain ⟨mode, new, n, h, hlogins, hgives⟩ :
      ∃ mode, Continues mode [] P 0 (round :: rounds) s := by
    refine endState_of_wp (P := fun s : Cli => ∃ mode, Continues mode [] P 0 (round :: rounds) s) ?_
    rw [tryConnect, wp_bind]
    have hstart : ∀ s : Cli, s.client.trace = [] → s.client.dbus = none →
        s.client.Handed s.client.mode [] P := fun s htrace hdbus =>
      ⟨rfl, by rw [htrace]; rfl, fun d hd => by rw [hdbus] at hd; cases hd⟩
    refine wp_mono (wp_handleOptions args) (fun _ s hs => ?_) fun _ s hs => ?_
    -- The options are wrong, and nobody logs in.
    swap
    · have hcontinues := continues_of_handed (hstart s hs.2.2.2.1 hs.2.2.2.2) (round :: rounds)
      rw [logins, hs.2.2.1] at hcontinues
      exact ⟨_, hcontinues⟩
    have hdo : wp (doConnect env round) _ _ s :=
      wp_doConnect_handed rounds (hstart s (hs.2 ▸ rfl) (hs.2 ▸ rfl)) (hP round List.mem_cons_self)
    rw [show s.logins = 0 from hs.2 ▸ rfl] at hdo
    rw [connect]
    simp only [wp_bind, wp_modify]
    refine wp_mono hdo (fun _ s h => ?_) fun _ _ h => ⟨_, h⟩
    obtain ⟨new, h, hlogins, hgives⟩ := h
    -- After the first login, the rounds to come.
    have hrest : wp (reconnect env round.session rounds) _ _
        ((s.line env (lit " Tunnel is up.")).line env
          (lit " Connected. Press Ctrl-C to disconnect.")) :=
      wp_reconnect_handed h fun r hr => hP r (List.mem_cons_of_mem _ hr)
    rw [logins_line, logins_line, hlogins] at hrest
    exact wp_mono hrest (fun _ _ h => ⟨_, h.after hgives⟩) fun _ _ h => ⟨_, h.after hgives⟩
  obtain rfl := h.mode_eq
  rw [Nat.zero_add] at hlogins
  exact ⟨h.given_eq ▸ hlogins ▸ hgives, h.provided_of⟩

end Cli

end OpenLawsVpn
