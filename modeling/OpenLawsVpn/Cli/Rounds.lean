import OpenLawsVpn.Cli.Main
import OpenLawsVpn.Lib.Runs
import OpenLawsVpn.Phases

/-!
# The rounds of the CLI

However often a session has to be authenticated again, each time is a login of its own:
Phase 1 results in a challenge that arrived in it, the browser is opened once on the URL of
this challenge, unless that is empty, a token is received for it, and Phase 2 is called with
the state id and the address of this challenge and with this token (`LoginStage.step`).

The trace of every run is a word of this protocol, and the program ends with the status
0 exactly if the last session ended without a need to log in again (`main_login`).

* `LoginStage.step`: the protocol of a login, in which the browser is a stage of its own, that is
  there exactly if the URL is not empty;
* `Reaches`: the trace so far leads to a stage, which each statement moves on;
* `wp_getToken`: when the capture has a token;
* `main_login`: the protocol of a whole run, and its status.
-/

namespace OpenLawsVpn

open Wp

/-- How far a login has come, with the rounds to come. -/
inductive LoginStage
  | due (rounds : List Round)
  | challenged (result : Phase1Result) (round : Round) (rounds : List Round)
  /-- The browser was opened. -/
  | opened (result : Phase1Result) (round : Round) (rounds : List Round)
  | answered (result : Phase1Result) (token : Bytes) (rounds : List Round)
  | connecting (rounds : List Round)
  | up (rounds : List Round)
  | over

open Classical in
/-- The protocol of the logins. The browser is opened once on the URL of the challenge, and not
    at all on an empty URL, before a token is received. Output is possible at any time. -/
noncomputable def LoginStage.step : LoginStage → MainAction → Option LoginStage
  | due (round :: rounds), .phase1 result =>
    if round.phase1.Challenges result then some (challenged result round rounds) else none
  | challenged result round rounds, .cli (.system cmd) =>
    if result.samlUrl ≠ [] ∧ cmd = xdgOpenCommand (fullUrl result.samlUrl) then
      some (opened result round rounds)
    else none
  | challenged result round rounds, .token token =>
    if result.samlUrl = [] ∧ round.capture.Received token then some (answered result token rounds)
    else none
  | opened result round rounds, .token token =>
    if round.capture.Received token then some (answered result token rounds) else none
  | answered result token rounds, .phase2 stateId token' remoteIp =>
    if stateId = result.stateId ∧ token' = token ∧ remoteIp = result.remoteIp then
      some (connecting rounds)
    else none
  | connecting rounds, .connected => some (up rounds)
  | up rounds, .disconnected needReauth => some (if needReauth then due rounds else .over)
  | stage, .cli (.stdout _) => some stage
  | stage, .cli (.stderr _) => some stage
  | _, _ => none

theorem LoginStage.step_stdout (stage : LoginStage) (line : Bytes) :
    stage.step (.cli (.stdout line)) = some stage := by
  unfold LoginStage.step
  split <;> simp_all

theorem LoginStage.step_stderr (stage : LoginStage) (line : Bytes) :
    stage.step (.cli (.stderr line)) = some stage := by
  unfold LoginStage.step
  split <;> simp_all

section Step

variable {result : Phase1Result} {token : Bytes} {round : Round} {rounds : List Round}

theorem LoginStage.step_phase1 (h : round.phase1.Challenges result) :
    (due (round :: rounds)).step (.phase1 result) = some (challenged result round rounds) :=
  if_pos h

/-- A login whose browser had to be opened on the URL, if there is one, and was. -/
def LoginStage.browsed (result : Phase1Result) (round : Round) (rounds : List Round) :
    LoginStage :=
  if result.samlUrl = [] then challenged result round rounds else opened result round rounds

/-- The browser is opened on the URL of the challenge. -/
theorem LoginStage.step_system (h : result.samlUrl ≠ []) :
    (challenged result round rounds).step
      (.cli (.system (xdgOpenCommand (fullUrl result.samlUrl)))) =
      some (opened result round rounds) :=
  if_pos ⟨h, rfl⟩

theorem LoginStage.browsed_ne_over : browsed result round rounds ≠ .over := by
  rw [browsed]
  split_ifs <;> simp

/-- After that, a token of the round is received. -/
theorem LoginStage.step_token (h : round.capture.Received token) :
    (browsed result round rounds).step (.token token) = some (answered result token rounds) := by
  rw [browsed]
  split_ifs with hurl
  · exact if_pos ⟨hurl, h⟩
  · exact if_pos h

theorem LoginStage.step_phase2 :
    (answered result token rounds).step (.phase2 result.stateId token result.remoteIp) =
      some (connecting rounds) :=
  if_pos ⟨rfl, rfl, rfl⟩

end Step

namespace Cli

variable {env : MainEnvironment} {rounds₀ : List Round} {stage : LoginStage} {s : Cli}

/-- A call of the library, on the client of the program. -/
theorem wp_library {α : Type} {call : Settings → ClientM α} {post : α → Cli → Prop}
    {exn : MainStop → Cli → Prop} :
    wp (library env call) post exn s ↔
      wp (call (s.settings env)) (fun a client => post a { s with client })
        (fun e client => exn e.toMain { s with client }) s.client := by
  simp only [wp, library]
  cases call (s.settings env) s.client <;> rfl

/-- The trace is a word of the protocol, which leads to the stage. -/
def Reaches (rounds₀ : List Round) (stage : LoginStage) (s : Cli) : Prop :=
  Runs.run LoginStage.step (.due rounds₀) s.trace = some stage

/-- The trace is a word of the protocol, which does not end in a session that is over. -/
def Unfinished (rounds₀ : List Round) (s : Cli) : Prop :=
  ∃ stage, Reaches rounds₀ stage s ∧ stage ≠ .over

namespace Reaches

variable (h : Reaches rounds₀ stage s)
include h

theorem push {a : MainAction} {stage' : LoginStage} (ha : stage.step a = some stage') :
    Reaches rounds₀ stage' (s.push a) := by
  rw [Reaches, Cli.push, Runs.run_append, h, Option.bind_some, Runs.run, ha, Option.bind_some,
    Runs.run]

theorem line (env : MainEnvironment) (text : Bytes) : Reaches rounds₀ stage (s.line env text) :=
  h.push (stage.step_stdout _)

end Reaches

/-- The browser is opened on the URL, unless this is empty. -/
theorem Reaches.browse {result : Phase1Result} {round : Round} {rounds : List Round}
    (h : Reaches rounds₀ (.challenged result round rounds) s) (env : MainEnvironment)
    (system : Bytes → ℤ) :
    Reaches rounds₀ (.browsed result round rounds) (s.browse env system result.samlUrl) := by
  rw [Reaches, Cli.browse, Runs.run_append, h, Option.bind_some, openBrowser, LoginStage.browsed]
  by_cases hurl : result.samlUrl = []
  · rw [if_pos hurl, if_pos hurl, List.map_singleton, Runs.run, LoginStage.step_stderr,
      Option.bind_some, Runs.run]
  · rw [if_neg hurl, if_neg hurl]
    dsimp only
    -- What is written before and after the command makes no difference.
    split_ifs with hstatus
    all_goals
      simp only [List.cons_append, List.nil_append, List.map_cons, List.map_nil, Runs.run,
        LoginStage.step_stdout, LoginStage.step_stderr, LoginStage.step_system hurl,
        Option.bind_some]

end Cli

/-! ## The capture -/

namespace SAMLServer

variable {capture : CaptureEnvironment}

/-- There is at most one token. -/
theorem received_unique {token token' : Bytes} (h : capture.Received token)
    (h' : capture.Received token') : token = token' := by
  obtain ⟨-, -, body, hbody, htoken⟩ := h
  obtain ⟨-, -, body', hbody', htoken'⟩ := h'
  obtain rfl := Except.ok.inj (hbody.symm.trans hbody')
  exact Except.ok.inj (htoken.symm.trans htoken')

/-- The result is a token exactly if it is received, and the page is written back. -/
theorem wp_run_result (hacceptor : capture.acceptor = .ok ()) :
    wp (run capture)
      (fun _ c => ∃ result, c.resolved = [result] ∧ ∀ token,
        result = .ok token ↔ capture.Received token ∧ capture.write = .ok ())
      (fun _ _ => False) {} := by
  rw [run, wp_tryCatch]
  refine wp_mono (wp_serve (c := {}) hacceptor rfl) (fun _ c h => ?_) fun e c h => ?_
  · obtain ⟨result, hresolved, hanswers, hwrite⟩ := h
    refine ⟨result, hresolved, fun token => ?_⟩
    cases result with
    | ok token' =>
      have hreceived : capture.Received token' := hanswers
      rw [Except.ok.injEq]
      constructor
      · rintro rfl
        exact ⟨hreceived, hwrite ⟨_, hreceived⟩⟩
      · exact fun h => received_unique hreceived h.1
    | error e => exact iff_of_false (by simp) fun h => hanswers ⟨token, h.1⟩
  · refine wp_mono (wp_setResult h.1 _) (fun _ c hresolved => ⟨_, hresolved, fun token => ?_⟩)
      fun _ _ h => h
    exact iff_of_false (by simp) fun hreceived => h.2 ⟨token, hreceived.1⟩ hreceived.2

end SAMLServer

namespace Cli

variable {env : MainEnvironment} {rounds₀ : List Round} {s : Cli}

/-- The future has a token exactly if one is received and the page is written back. -/
theorem wp_getToken {post : Bytes → Cli → Prop} {exn : MainStop → Cli → Prop}
    {capture : CaptureEnvironment}
    (hpost : ∀ token, capture.Received token → capture.write = .ok () → post token s)
    (hexn : ∀ e, (∀ token, ¬(capture.Received token ∧ capture.write = .ok ())) → exn e s) :
    wp (getToken env capture) post exn s := by
  rw [getToken]
  -- Without an acceptor the thread throws, and nothing is received.
  cases hacceptor : capture.acceptor with
  | error what =>
    rw [SAMLServer.thread, hacceptor]
    refine hexn _ fun token h => ?_
    cases hacceptor.symm.trans h.1.1
  | ok =>
    have hrun := SAMLServer.wp_run_result hacceptor
    have hthread : SAMLServer.thread capture {} = SAMLServer.run capture {} := by
      rw [SAMLServer.thread, hacceptor]
      rfl
    rw [wp] at hrun
    rw [hthread]
    cases hresult : SAMLServer.run capture {} with
    | error e c =>
      rw [hresult] at hrun
      exact hrun.elim
    | ok a c =>
      rw [hresult] at hrun
      obtain ⟨result, hresolved, htoken⟩ := hrun
      simp only [hresolved]
      cases result with
      | ok token =>
        obtain ⟨hreceived, hwrite⟩ := (htoken token).1 rfl
        exact hpost token hreceived hwrite
      | error e => exact hexn _ fun token h => by cases (htoken token).2 h

/-! ## The program -/

/-- A round that is due, from its start to the session. -/
theorem wp_doConnect {round : Round} {rounds : List Round}
    (h : Reaches rounds₀ (.due (round :: rounds)) s) :
    wp (doConnect env round) (fun _ s => Reaches rounds₀ (.up rounds) s)
      (fun _ s => Unfinished rounds₀ s) s := by
  simp only [doConnect, wp_bind, wp_modify, wp_library]
  have h := h.line env (lit " Phase 1: connecting to provoke CRV1 challenge...")
  refine wp_mono (OpenVPNClient.wp_connectPhase1_challenge _ round.phase1 _)
    (fun result client hresult => ?_) fun e client _ => ⟨_, h, by simp⟩
  have h := h.push (LoginStage.step_phase1 hresult)
  have h := h.line env (lit " SAML URL received: " ++ result.samlUrl)
  have h := h.line env (lit " State ID: " ++ result.stateId)
  have h := h.line env (lit " Please complete SAML login in your browser.")
  have h := h.browse env round.system
  refine wp_getToken (fun token htoken _ => ?_) fun e _ => ⟨_, h, LoginStage.browsed_ne_over⟩
  have h := h.push (LoginStage.step_token htoken)
  have h := h.line env (lit " SAML token received.")
  have h := h.line env (lit " Phase 2: establishing tunnel...")
  have h := h.push LoginStage.step_phase2
  exact wp_mono (wp_true _ _) (fun _ client _ => h.push rfl) fun e client _ => ⟨_, h, by simp⟩

/-- The end of a session makes a login due, or is the end. -/
theorem wp_waitForDisconnect {session : List OpenVPNClient.Input} {rounds : List Round}
    (h : Reaches rounds₀ (.up rounds) s) :
    wp (waitForDisconnect env session)
      (fun needReauth s => Reaches rounds₀ (if needReauth then .due rounds else .over) s)
      (fun _ s => Unfinished rounds₀ s) s := by
  simp only [waitForDisconnect, wp_bind, wp_modify, wp_get]
  split
  · exact ⟨_, h, by simp⟩
  · exact Reaches.push h rfl

/-- The loop ends with a session that is over, or does not return. -/
theorem wp_reconnect {session : List OpenVPNClient.Input} {rounds : List Round}
    (h : Reaches rounds₀ (.up rounds) s) :
    wp (reconnect env session rounds) (fun _ s => Reaches rounds₀ .over s)
      (fun _ s => Unfinished rounds₀ s) s := by
  induction rounds generalizing session s with
  | nil =>
    rw [reconnect, wp_bind]
    refine wp_mono (wp_waitForDisconnect h) (fun needReauth s h => ?_) fun _ _ h => h
    cases needReauth with
    | false => exact h
    | true => exact ⟨_, h.line env _, by simp⟩
  | cons round rounds ih =>
    rw [reconnect, wp_bind]
    refine wp_mono (wp_waitForDisconnect h) (fun needReauth s h => ?_) fun _ _ h => h
    cases needReauth with
    | false => exact h
    | true =>
      simp only [if_true, wp_bind, wp_modify]
      refine wp_mono (wp_doConnect (h.line env _)) (fun _ s h => ?_) fun _ _ h => h
      exact ih (h.line env _)

/-- The options are no part of a login. -/
theorem wp_tryConnect (args : List Bytes) (round : Round) (rounds : List Round)
    (hs : s.trace = []) :
    wp (tryConnect env args round rounds)
      (fun _ s => Reaches (round :: rounds) .over s) (fun _ s => Unfinished (round :: rounds) s)
      s := by
  have hdue : ∀ s' : Cli, s'.trace = s.trace →
      Reaches (round :: rounds) (.due (round :: rounds)) s' :=
    fun s' hs' => by rw [Reaches, hs', hs, Runs.run]
  rw [tryConnect, wp_bind]
  refine wp_mono (wp_handleOptions args) (fun _ s' hs' => ?_)
    fun _ s' hs' => ⟨_, hdue s' hs'.2.2.1, by simp⟩
  rw [connect, wp_bind]
  refine wp_mono (wp_doConnect (hdue s' (hs'.2 ▸ rfl))) (fun _ s h => ?_) fun _ _ h => h
  exact wp_reconnect ((h.line env _).line env _)

/-- How a run that was tried ends. -/
theorem exit_reaches {x : CliM Unit}
    (h : wp x (fun _ s => Reaches rounds₀ .over s) (fun _ s => Unfinished rounds₀ s) s) :
    ∃ stage, Runs.run LoginStage.step (.due rounds₀) (exit (x s)).2 = some stage ∧
      ((exit (x s)).1 = .status 0 ↔ stage = .over) := by
  rw [wp] at h
  cases hx : x s with
  | ok a s' =>
    rw [hx] at h
    exact ⟨.over, h, by simp [exit]⟩
  | error e s' =>
    rw [hx] at h
    obtain ⟨stage, h, hne⟩ := h
    refine ⟨stage, ?_, iff_of_false ?_ hne⟩
    · cases e with
      | threw what => exact h.push (stage.step_stderr _)
      | _ => exact h
    · cases e <;> simp [exit]

/-- Every run is a sequence of logins, each with a challenge, a browser and a token of its own
    round, and the program ends with the status 0 exactly if the last session is over. -/
theorem main_login (env : MainEnvironment) (program : Bytes) (args : List Bytes) (round : Round)
    (rounds : List Round) :
    ∃ stage, Runs.run LoginStage.step (.due (round :: rounds))
        (main env program args round rounds).2 = some stage ∧
      ((main env program args round rounds).1 = .status 0 ↔ stage = .over) := by
  have hstderr : ∀ line, ∃ stage, Runs.run LoginStage.step (.due (round :: rounds))
      [.cli (.stderr line)] = some stage ∧ (Exit.status 1 = .status 0 ↔ stage = .over) :=
    fun line => ⟨.due (round :: rounds), rfl, by simp⟩
  -- Without a command, or with another one, only the usage is printed.
  cases args with
  | nil => exact hstderr _
  | cons command args' =>
    by_cases hcommand : command = lit "connect"
    · cases args' with
      | nil =>
        rw [main.eq_def]
        simp only [if_pos hcommand]
        exact hstderr _
      | cons configFile args'' =>
        rw [main.eq_def]
        simp only [if_pos hcommand]
        have hrun : wp (tryConnect env (command :: configFile :: args'') round rounds) _ _
          { client := { configPath := configFile } } := wp_tryConnect _ round rounds rfl
        exact exit_reaches hrun
    · rw [main.eq_def]
      simp only [if_neg hcommand]
      exact hstderr _

end Cli

end OpenLawsVpn
