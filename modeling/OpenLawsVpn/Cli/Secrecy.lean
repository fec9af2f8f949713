import OpenLawsVpn.Cli.Login
import OpenLawsVpn.Tokens
import Mathlib.Data.List.Forall2

/-!
# The CLI does not tell the token

Of the tokens that it receives, however often it logs in, the program tells the lengths. If
the rounds differ in the requests of the browser only, and these result in tokens of the
same lengths, or in the same errors (`Round.SameLength`), then a run ends in the same way,
and it writes the same lines, gives the same commands to the shell, and makes the same calls
of the library but for the tokens, and so does the library (`main_hides`).

* `Round.SameLength`: what two rounds may differ in;
* `alike_doConnect`, `alike_reconnect`: a login, and all of them, look alike in such rounds;
* `main_hides`: a run of the program, from its command line to its exit;
* `main_hides_otherRound`: two rounds with other responses of the same length.
-/

namespace OpenLawsVpn

open Wp

/-! ## The result of the capture -/

namespace CaptureEnvironment

/-- What the request results in. -/
def posted (env : CaptureEnvironment) : Except CaptureError Bytes :=
  match readRequest env.segments with
  | .error e => .error (.request e)
  | .ok body =>
    match extractToken body with
    | .ok token => .ok token
    | .error what => .error (.notFound what)

/-- What the promise results in, when the acceptor is made. -/
def result (env : CaptureEnvironment) : Except CaptureError Bytes :=
  match env.accept with
  | .error what => .error (.accept what)
  | .ok () =>
    match env.posted with
    | .error e => .error e
    | .ok token =>
      match env.write with
      | .error what => .error (.write what)
      | .ok () => .ok token

end CaptureEnvironment

/-- The promise has its result when the thread ends. -/
theorem SAMLServer.wp_run_resolved (env : CaptureEnvironment) :
    wp (run env) (fun _ c => c.resolved = [env.result]) (fun _ _ => False) {} := by
  rw [run, wp_tryCatch, serve, wp_bind, CaptureEnvironment.result]
  cases env.accept with
  | error what => exact wp_setResult (c := {}) rfl _
  | ok =>
    rw [ofOutcome, wp_pure, wp_bind, CaptureEnvironment.posted]
    cases readRequest env.segments with
    | error e => exact wp_setResult (c := {}) rfl _
    | ok body =>
      rw [ofOutcome, wp_pure]
      dsimp only
      cases extractToken body with
      | error what => exact wp_mono (wp_setResult rfl _) (fun _ _ h => h) fun _ _ h => h.elim
      | ok token =>
        dsimp only
        rw [wp_bind]
        cases env.write with
        | error what => exact wp_setResult (c := {}) rfl _
        | ok =>
          rw [ofOutcome, wp_pure, wp_bind, wp_modify]
          exact wp_mono (wp_setResult rfl _) (fun _ _ h => h) fun _ _ h => h.elim

namespace Cli

variable {env : MainEnvironment} {capture : CaptureEnvironment}

/-! ## The token -/

theorem getToken_of_acceptor {what : Bytes} (h : capture.acceptor = .error what) :
    getToken env capture = throw .terminated := by
  rw [getToken, SAMLServer.thread, h]
  rfl

/-- The token is taken out of the result. -/
theorem getToken_eq (hacceptor : capture.acceptor = .ok ()) :
    ∃ c : Capture, c.resolved = [capture.result] ∧
      SAMLServer.thread capture {} = .ok () c := by
  have hresolved := SAMLServer.wp_run_resolved capture
  have hthread : SAMLServer.thread capture {} = SAMLServer.run capture {} := by
    rw [SAMLServer.thread, hacceptor]
    rfl
  rw [wp] at hresolved
  cases hrun : SAMLServer.run capture {} with
  | ok _ c =>
    rw [hrun] at hresolved
    exact ⟨c, hresolved, hthread.trans hrun⟩
  | error e c =>
    rw [hrun] at hresolved
    exact hresolved.elim

/-- A token that is received is the result. -/
theorem getToken_of_ok {token : Bytes} (hacceptor : capture.acceptor = .ok ())
    (hresult : capture.result = .ok token) : getToken env capture = pure token := by
  obtain ⟨c, hresolved, hthread⟩ := getToken_eq hacceptor
  simp only [getToken, hthread, hresolved, hresult]

theorem getToken_of_error {e : CaptureError} (hacceptor : capture.acceptor = .ok ())
    (hresult : capture.result = .error e) :
    getToken env capture = throw (.threw (e.what env.eof)) := by
  obtain ⟨c, hresolved, hthread⟩ := getToken_eq hacceptor
  simp only [getToken, hthread, hresolved, hresult]

end Cli

/-! ## Rounds that look alike -/

/-- The captures differ in the requests only, which result in tokens of one length, or in the
    same error. -/
structure CaptureEnvironment.SameLength (capture capture' : CaptureEnvironment) : Prop where
  acceptor_eq : capture'.acceptor = capture.acceptor
  accept_eq : capture'.accept = capture.accept
  length_eq : capture.posted.map List.length = capture'.posted.map List.length
  write_eq : capture'.write = capture.write

/-- The rounds differ in the requests of the browser only. -/
structure Round.SameLength (round round' : Round) : Prop where
  round_eq : round' = { round with capture := round'.capture }
  capture : round.capture.SameLength round'.capture

/-- The requests result in tokens of one length, or in the same error. -/
theorem CaptureEnvironment.SameLength.result {capture capture' : CaptureEnvironment}
    (h : capture.SameLength capture') :
    capture.result.map List.length = capture'.result.map List.length := by
  rw [CaptureEnvironment.result, CaptureEnvironment.result, h.accept_eq, h.write_eq]
  have hposted := h.length_eq
  cases capture.accept with
  | error what => rfl
  | ok =>
    cases hx : capture.posted <;> cases hy : capture'.posted <;> rw [hx, hy] at hposted
    · exact hposted
    · cases hposted
    · cases hposted
    · cases capture.write with
      | error what => rfl
      | ok => exact hposted

/-- An action without the token. -/
def MainAction.hide : MainAction → MainAction
  | .token _ => .token []
  | .phase2 stateId _ remoteIp => .phase2 stateId [] remoteIp
  | a => a

namespace Cli

/-- The program without the tokens, and without the passwords given and provided. -/
def hide (s : Cli) : Cli :=
  { s with client := s.client.hide, trace := s.trace.map MainAction.hide }

variable {env : MainEnvironment} {α : Type}

/-- What does not tell the token is the same. -/
theorem eq_of_hide {β : Type*} {s t : Cli} (h : s.hide = t.hide) (f : Cli → β)
    (hf : ∀ s, f s.hide = f s) : f s = f t := by
  rw [← hf, h, hf]

theorem length_trace_hide (s : Cli) : s.hide.trace.length = s.trace.length := List.length_map _

theorem hide_push (a : MainAction) (s : Cli) : (s.push a).hide = s.hide.push a.hide := by
  rw [hide, push, push, hide, List.map_append, List.map_singleton]

/-- A line of output does not tell the token. -/
theorem hide_line (text : Bytes) (s : Cli) : (s.line env text).hide = s.hide.line env text := by
  rw [line, line, hide_push, length_trace_hide]
  rfl

theorem hide_browse (system : Bytes → ℤ) (url : Bytes) (s : Cli) :
    (s.browse env system url).hide = s.hide.browse env system url := by
  rw [browse, browse, length_trace_hide, hide, hide, List.map_append, List.map_map]
  congr 2

theorem hide_receive (inputs : List OpenVPNClient.Input) (s : Cli) :
    (s.receive env inputs).hide = s.hide.receive env inputs := by
  rw [receive, receive, hide, OpenVPNClient.hide_receiveAll]
  rfl

/-! ## Parts of the program -/

theorem alike_push {a a' : MainAction} (h : a.hide = a'.hide) :
    Alike hide (modify (push a) : CliM PUnit) (modify (push a')) :=
  .modify fun s t hst => by rw [hide_push, hide_push, h, hst]

theorem alike_line (text : Bytes) :
    Alike hide (modify (line env text) : CliM PUnit) (modify (line env text)) :=
  .modify_of_acts (hide_line text)

theorem alike_receive (inputs : List OpenVPNClient.Input) :
    Alike hide (modify (receive env inputs) : CliM PUnit) (modify (receive env inputs)) :=
  .modify_of_acts (hide_receive inputs)

/-- Calls that look alike to the library do so to the program. -/
theorem alike_library {call call' : Settings → ClientM α}
    (h : ∀ settings, Alike OpenVPNClient.hide (call settings) (call' settings)) :
    Alike hide (library env call) (library env call') := by
  intro s t hst
  have hseen := h (s.settings env) s.client t.client (congrArg client hst)
  have hsettings : s.settings env = t.settings env := eq_of_hide hst (settings env) fun _ => rfl
  have hhide : ∀ {c c' : OpenVPNClient}, c.hide = c'.hide →
      { s with client := c }.hide = { t with client := c' }.hide := fun {c c'} hc => by
    change { s.hide with client := c.hide } = { t.hide with client := c'.hide }
    rw [hst, hc]
  rw [library, library, ← hsettings]
  cases hx : call (s.settings env) s.client <;> cases hy : call' (s.settings env) t.client <;>
    rw [hx, hy] at hseen <;> obtain ⟨h₁, h₂⟩ := Prod.mk.inj hseen
  · obtain rfl := Except.ok.inj h₁
    exact Prod.ext rfl (hhide h₂)
  · cases h₁
  · cases h₁
  · obtain rfl := Except.error.inj h₁
    exact Prod.ext rfl (hhide h₂)

variable {round round' : Round} {rounds rounds' : List Round}

/-- The tokens that are taken have one length. -/
theorem alike_getToken {capture' : CaptureEnvironment} (h : capture.SameLength capture')
    {f f' : Bytes → CliM α}
    (hf : ∀ token token', token.length = token'.length → Alike hide (f token) (f' token')) :
    Alike hide (getToken env capture >>= f) (getToken env capture' >>= f') := by
  cases hacceptor : capture.acceptor with
  | error what =>
    rw [getToken_of_acceptor hacceptor, getToken_of_acceptor (h.acceptor_eq.trans hacceptor)]
    exact .bind (.throw _) fun _ => hf _ _ rfl
  | ok =>
    have hacceptor' := h.acceptor_eq.trans hacceptor
    have hresult := h.result
    cases hx : capture.result <;> cases hy : capture'.result <;> rw [hx, hy] at hresult
    · rw [getToken_of_error hacceptor hx, getToken_of_error hacceptor' hy,
        Except.error.inj hresult]
      exact .bind (.throw _) fun _ => hf _ _ rfl
    · cases hresult
    · cases hresult
    · rw [getToken_of_ok hacceptor hx, getToken_of_ok hacceptor' hy]
      exact hf _ _ (Except.ok.inj hresult)

/-- A login does not tell its token, but for its length. -/
theorem alike_doConnect (h : round.SameLength round') :
    Alike hide (doConnect env round) (doConnect env round') := by
  obtain ⟨hround, hcapture⟩ := h
  generalize round'.capture = capture' at hround hcapture
  subst hround
  rw [doConnect, doConnect]
  exact .bind (alike_line _) fun _ =>
    .bind (alike_library fun _ => OpenVPNClient.alike_connectPhase1 _) fun _ =>
    .bind (alike_push rfl) fun _ => .bind (alike_line _) fun _ => .bind (alike_line _) fun _ =>
    .bind (alike_line _) fun _ => .bind (.modify_of_acts (hide_browse _ _)) fun _ =>
    .bind (alike_receive _) fun _ => alike_getToken hcapture fun token token' hlength =>
    .bind (alike_push rfl) fun _ => .bind (alike_line _) fun _ => .bind (alike_line _) fun _ =>
    .bind (alike_push rfl) fun _ =>
    .bind (alike_library fun _ => OpenVPNClient.alike_connectPhase2 hlength _ _ _) fun _ =>
    alike_push rfl

theorem alike_waitForDisconnect (session : List OpenVPNClient.Input) :
    Alike hide (waitForDisconnect env session) (waitForDisconnect env session) := by
  rw [waitForDisconnect]
  refine .bind (alike_receive session) fun _ => .get_bind fun s t hst => ?_
  rw [eq_of_hide hst (fun s => s.client.waitForDisconnect) fun _ => rfl]
  cases t.client.waitForDisconnect with
  | none => exact .throw _
  | some needReauth => exact .bind (alike_push rfl) fun _ => .pure _

/-- The rounds after the first do the same for tokens of the same lengths. -/
theorem alike_reconnect (session : List OpenVPNClient.Input)
    (h : List.Forall₂ Round.SameLength rounds rounds') :
    Alike hide (reconnect env session rounds) (reconnect env session rounds') := by
  induction h generalizing session with
  | nil =>
    rw [reconnect]
    exact .bind (alike_waitForDisconnect session) fun needReauth => .ite
      (fun _ => .bind (alike_line _) fun _ => .throw _) fun _ => .pure _
  | @cons round round' rounds rounds' hround hrounds ih =>
    have hsession : round'.session = round.session := by rw [hround.round_eq]
    rw [reconnect, reconnect, hsession]
    exact .bind (alike_waitForDisconnect session) fun needReauth => .ite
      (fun _ => .bind (alike_line _) fun _ => .bind (alike_doConnect hround) fun _ =>
        .bind (alike_line _) fun _ => ih _) fun _ => .pure _

theorem alike_connect (hround : round.SameLength round')
    (hrounds : List.Forall₂ Round.SameLength rounds rounds') :
    Alike hide (connect env round rounds) (connect env round' rounds') := by
  have hsession : round'.session = round.session := by rw [hround.round_eq]
  rw [connect, connect, hsession]
  exact .bind (alike_doConnect hround) fun _ => .bind (alike_line _) fun _ =>
    .bind (alike_line _) fun _ => alike_reconnect _ hrounds

/-- The options know of no token. -/
theorem alike_handleOption (arg : Bytes) (args : List Bytes) :
    Alike hide (handleOption arg args) (handleOption arg args) := by
  rw [handleOption.eq_def]
  refine .ite (fun _ => ?_) fun _ => .ite (fun _ => ?_) fun _ => .pure _
  · cases args with
    | nil => exact .pure _
    | cons value args =>
      dsimp only
      cases stoi value with
      | none => exact .throw _
      | some level => exact .modify_of_acts (F := ({ · with logLevel := level })) fun _ => rfl
  · exact .modify_of_acts
      (F := fun s => { s with client := { s.client with mode := .direct } }) fun _ => rfl

theorem alike_handleOptions (args : List Bytes) :
    Alike hide (handleOptions args) (handleOptions args) := by
  induction args with
  | nil => exact .pure _
  | cons arg args ih => exact .bind (alike_handleOption arg args) fun _ => ih

theorem alike_tryConnect (args : List Bytes) (hround : round.SameLength round')
    (hrounds : List.Forall₂ Round.SameLength rounds rounds') :
    Alike hide (tryConnect env args round rounds) (tryConnect env args round' rounds') :=
  .bind (alike_handleOptions args) fun _ => alike_connect hround hrounds

/-- Runs that look alike end alike. -/
theorem exit_of_seen {r r' : EStateM.Result MainStop Cli Unit} (h : seen hide r = seen hide r') :
    (exit r).1 = (exit r').1 ∧
      (exit r).2.map MainAction.hide = (exit r').2.map MainAction.hide := by
  have htrace : ∀ {s t : Cli}, s.hide = t.hide →
      s.trace.map MainAction.hide = t.trace.map MainAction.hide := fun h => congrArg trace h
  cases r <;> cases r' <;> obtain ⟨h₁, h₂⟩ := Prod.mk.inj h
  · exact ⟨rfl, htrace h₂⟩
  · cases h₁
  · cases h₁
  · obtain rfl := Except.error.inj h₁
    rename_i e s s'
    cases e with
    | threw what => exact ⟨rfl, by rw [exit, exit, List.map_append, List.map_append, htrace h₂]⟩
    | _ => exact ⟨rfl, htrace h₂⟩

/-- For rounds that differ in tokens of the same lengths, a run ends in the same way and does
    the same, and so does the library. -/
theorem main_hides (env : MainEnvironment) (program : Bytes) (args : List Bytes)
    (h : List.Forall₂ Round.SameLength (round :: rounds) (round' :: rounds')) :
    (main env program args round rounds).1 = (main env program args round' rounds').1 ∧
      (main env program args round rounds).2.map MainAction.hide =
        (main env program args round' rounds').2.map MainAction.hide ∧
      ∀ configFile,
        (endState (tryConnect env args round rounds
          { client := { configPath := configFile } })).client.hide =
        (endState (tryConnect env args round' rounds'
          { client := { configPath := configFile } })).client.hide := by
  obtain ⟨hround, hrounds⟩ := List.forall₂_cons.1 h
  have hseen : ∀ (args : List Bytes) (s : Cli),
      seen hide (tryConnect env args round rounds s) =
        seen hide (tryConnect env args round' rounds' s) :=
    fun args s => alike_tryConnect args hround hrounds s s rfl
  have hmain : (main env program args round rounds).1 = (main env program args round' rounds').1 ∧
      (main env program args round rounds).2.map MainAction.hide =
        (main env program args round' rounds').2.map MainAction.hide := by
    -- The usage and the other commands come before any round.
    cases args with
    | nil => exact ⟨rfl, rfl⟩
    | cons command args =>
      rw [main.eq_def, main.eq_def]
      dsimp only
      split_ifs
      · cases args with
        | nil => exact ⟨rfl, rfl⟩
        | cons configFile args => exact exit_of_seen (hseen _ _)
      · exact ⟨rfl, rfl⟩
  exact ⟨hmain.1, hmain.2, fun configFile => congrArg client (view_endState (hseen args _))⟩

/-- The browser posts another response, in one segment. -/
def otherRound : Round :=
  { relayedRound with
    capture := {
      segments := [relayedPost.header.render, lit "RelayState=x&SAMLResponse=aGo%3D"] } }

/-- A run with one login. -/
def mainOf (round : Round) : Exit × List MainAction :=
  main { clock := fun _ => ⟨2024, 5, 17, 9, 30, 0⟩, eof := lit "End of file" }
    (lit "openlawsvpn-cli") [lit "connect", lit "vpn.ovpn", lit "--standalone"] round []

theorem main_hides_otherRound :
    (mainOf relayedRound).1 = (mainOf otherRound).1 ∧
      (mainOf relayedRound).2.map MainAction.hide = (mainOf otherRound).2.map MainAction.hide := by
  have hcapture : relayedRound.capture.SameLength otherRound.capture :=
    ⟨rfl, rfl, by decide +kernel, rfl⟩
  have h := main_hides { clock := fun _ => ⟨2024, 5, 17, 9, 30, 0⟩, eof := lit "End of file" }
    (lit "openlawsvpn-cli") [lit "connect", lit "vpn.ovpn", lit "--standalone"]
    (.cons ⟨rfl, hcapture⟩ .nil)
  exact ⟨h.1, h.2.1⟩

/-- The tokens are not the same. -/
example : mainOf relayedRound ≠ mainOf otherRound := by decide +kernel

end Cli

end OpenLawsVpn
