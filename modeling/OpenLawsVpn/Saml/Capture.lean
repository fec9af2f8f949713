import OpenLawsVpn.Lib.Wp
import OpenLawsVpn.Saml.Request

/-!
# The capture thread

`SAMLCapture::start` hands out the future of a promise and leaves the promise to a
detached thread, which makes a server (`SAMLServer`) and runs it. The server
accepts one connection, reads the request, answers the browser and sets the token.
An exception while it runs becomes the result of the promise.

Two exceptions lose the result (`resolvesOnce_iff`). The acceptor is made with the
server, before anything is caught, so that a port in use ends the whole program.
And the browser is answered before the token is set: when that fails, the
exception is set in place of the token received.

* `CaptureEnvironment`: the port, the request, and whether the browser can be answered;
* `wp_serve`: what the server sets of the promise, and when it throws;
* `resolvesOnce_iff`: the criterion for the whole capture;
* `lost_result`: both ways in which the result is lost.
-/

namespace OpenLawsVpn

open Wp

/-- The exceptions of the thread. -/
inductive CaptureError
  /-- The acceptor is not made: the port is in use. -/
  | acceptor (what : Bytes)
  | accept (what : Bytes)
  | request (e : RequestError)
  /-- `std::runtime_error`, of a request without the field. -/
  | notFound (what : Bytes)
  | write (what : Bytes)
  /-- `std::future_error`, of a promise that has a result. -/
  | alreadySatisfied
  deriving DecidableEq, Repr

/-- What the thread meets: the outcomes of making the acceptor, of accepting a
    connection and of writing to it, and the segments in which the request
    arrives. -/
structure CaptureEnvironment where
  acceptor : Except Bytes Unit := .ok ()
  accept : Except Bytes Unit := .ok ()
  segments : List Bytes
  write : Except Bytes Unit := .ok ()

/-- The results set for the promise, and what was written to the browser. -/
structure Capture where
  resolved : List (Except CaptureError Bytes) := []
  written : List Bytes := []
  deriving DecidableEq

/-- The programs of the thread. -/
abbrev CaptureM := EStateM CaptureError Capture

/-- The outcome of an operation of the system. -/
def ofOutcome {α ε : Type} (error : ε → CaptureError) : Except ε α → CaptureM α
  | .ok a => pure a
  | .error what => throw (error what)

namespace SAMLServer

variable (env : CaptureEnvironment)

/-- `set_value` and `set_exception` of the promise: it takes one result. -/
def setResult (result : Except CaptureError Bytes) : CaptureM Unit := do
  let c ← get
  if c.resolved = [] then modify fun c => { c with resolved := c.resolved ++ [result] }
  else throw .alreadySatisfied

/-- The page for the browser. -/
def response : Bytes :=
  lit "HTTP/1.1 200 OK\r\nContent-Type: text/html\r\n\r\n" ++
    lit "<html><body><h1>Login successful!</h1><p>You can close this window now.</p></body></html>"

/-- What `SAMLServer::run` tries. -/
def serve : CaptureM Unit := do
  ofOutcome .accept env.accept
  let body ← ofOutcome .request (readRequest env.segments)
  match extractToken body with
  | .ok token =>
    ofOutcome .write env.write
    modify fun c => { c with written := c.written ++ [response] }
    setResult (.ok token)
  | .error what => setResult (.error (.notFound what))

/-- `SAMLServer::run`: an exception becomes the result. -/
def run : CaptureM Unit := tryCatch (serve env) fun e => setResult (.error e)

/-- The thread: the acceptor is made with the server. -/
def thread : CaptureM Unit := do
  ofOutcome .acceptor env.acceptor
  run env

end SAMLServer

namespace CaptureEnvironment

/-- A request is received in full, with this token. -/
def Received (env : CaptureEnvironment) (token : Bytes) : Prop :=
  env.acceptor = .ok () ∧ env.accept = .ok () ∧
    ∃ body, readRequest env.segments = .ok body ∧ extractToken body = .ok token

/-- The result that the promise should have. -/
def Answers (env : CaptureEnvironment) (result : Except CaptureError Bytes) : Prop :=
  match result with
  | .ok token => env.Received token
  | .error _ => ¬∃ token, env.Received token

end CaptureEnvironment

namespace SAMLServer

variable {env : CaptureEnvironment} {c : Capture}

/-- The thread ends without an exception, and the promise has one result, the right
    one. -/
def ResolvesOnce (env : CaptureEnvironment) : EStateM.Result CaptureError Capture Unit → Prop
  | .ok _ c => ∃ result, c.resolved = [result] ∧ env.Answers result
  | .error _ _ => False

/-- A promise that is not satisfied gets its result. -/
theorem wp_setResult (hc : c.resolved = []) (result : Except CaptureError Bytes) :
    wp (setResult result) (fun _ c => c.resolved = [result]) (fun _ _ => False) c := by
  simp [setResult, hc]

/-- What is tried sets the right result, or throws without a result; with a token,
    it throws exactly if the browser cannot be answered. -/
theorem wp_serve (hacceptor : env.acceptor = .ok ()) (hc : c.resolved = []) :
    wp (serve env)
      (fun _ c => ∃ result, c.resolved = [result] ∧ env.Answers result ∧
        ((∃ token, env.Received token) → env.write = .ok ()))
      (fun _ c => c.resolved = [] ∧ ((∃ token, env.Received token) → env.write ≠ .ok ())) c := by
  rw [serve, wp_bind]
  -- An error of a step comes before a token is received, except for the answer.
  cases haccept : env.accept with
  | error what =>
    refine ⟨hc, ?_⟩
    rintro ⟨token, -, h, -⟩
    cases haccept.symm.trans h
  | ok =>
    rw [ofOutcome, wp_pure, wp_bind]
    cases hrequest : readRequest env.segments with
    | error e =>
      refine ⟨hc, ?_⟩
      rintro ⟨token, -, -, body, h, -⟩
      cases hrequest.symm.trans h
    | ok body =>
      rw [ofOutcome, wp_pure]
      cases htoken : extractToken body with
      | error what =>
        have hnot : ¬∃ token, env.Received token := by
          rintro ⟨token, -, -, body', h, h'⟩
          cases hrequest.symm.trans h
          cases htoken.symm.trans h'
        dsimp only
        refine wp_mono (wp_setResult hc _) (fun _ c h => ?_) fun _ _ h => h.elim
        exact ⟨_, h, hnot, fun h => absurd h hnot⟩
      | ok token =>
        dsimp only
        rw [wp_bind]
        cases hwrite : env.write with
        | error what => exact ⟨hc, fun _ => nofun⟩
        | ok =>
          rw [ofOutcome, wp_pure, wp_bind, wp_modify]
          set c' : Capture := { c with written := c.written ++ [response] }
          refine wp_mono (wp_setResult (c := c') hc _) (fun _ c h => ?_) fun _ _ h => h.elim
          exact ⟨_, h, ⟨hacceptor, haccept, body, hrequest, htoken⟩, fun _ => rfl⟩

/-- The promise has one result. It is the right one exactly if the browser can be
    answered when a token is received. -/
theorem wp_run (hacceptor : env.acceptor = .ok ()) (hc : c.resolved = []) :
    wp (run env)
      (fun _ c => ∃ result, c.resolved = [result] ∧
        (env.Answers result ↔ ((∃ token, env.Received token) → env.write = .ok ())))
      (fun _ _ => False) c := by
  rw [run, wp_tryCatch]
  refine wp_mono (wp_serve hacceptor hc) (fun _ c h => ?_) fun e c h => ?_
  · obtain ⟨result, hresolved, hanswers, hwrite⟩ := h
    exact ⟨result, hresolved, iff_of_true hanswers hwrite⟩
  · obtain ⟨hresolved, hwrite⟩ := h
    refine wp_mono (wp_setResult hresolved _) (fun _ c h => ⟨_, h, ?_⟩) fun _ _ h => h
    -- An exception answers only if nothing was received.
    constructor
    · exact fun hnot hreceived => absurd hreceived hnot
    · exact fun hok hreceived => hwrite hreceived (hok hreceived)

/-- The promise is resolved once and rightly exactly if the acceptor is made and,
    after a request with a token, the browser can be answered. -/
theorem resolvesOnce_iff (env : CaptureEnvironment) :
    ResolvesOnce env (thread env {}) ↔
      env.acceptor = .ok () ∧ ((∃ token, env.Received token) → env.write = .ok ()) := by
  cases hacceptor : env.acceptor with
  | error what =>
    have hthread : thread env {} = .error (.acceptor what) {} := by
      rw [thread, hacceptor]
      rfl
    rw [hthread]
    exact iff_of_false id fun h => by cases h.1
  | ok =>
    have hrun := wp_run (c := {}) hacceptor rfl
    have hthread : thread env {} = run env {} := by
      rw [thread, hacceptor]
      rfl
    rw [hthread]
    rw [wp] at hrun
    cases hresult : run env {} with
    | error e c =>
      rw [hresult] at hrun
      exact hrun.elim
    | ok a c =>
      rw [hresult] at hrun
      obtain ⟨result, hresolved, hanswers⟩ := hrun
      rw [eq_self, true_and, ← hanswers]
      constructor
      · rintro ⟨result', hresolved', h⟩
        rwa [List.singleton_inj.1 (hresolved.symm.trans hresolved')]
      · exact fun h => ⟨result, hresolved, h⟩

/-- The port is in use; and the browser goes away before it is answered. -/
theorem lost_result :
    let portInUse : CaptureEnvironment :=
      { acceptor := .error (lit "bind: Address already in use"), segments := [] }
    let answered : CaptureEnvironment :=
      { segments := [lit "POST / HTTP/1.1\r\nContent-Length: 17\r\n\r\nSAMLResponse=YQ=="]
        write := .error (lit "write: Broken pipe") }
    (¬ResolvesOnce portInUse (thread portInUse {}) ∧
      ∃ e c, thread portInUse {} = .error e c ∧ c.resolved = []) ∧
    ¬ResolvesOnce answered (thread answered {}) ∧ answered.Received (lit "YQ==") ∧
      ∃ c, thread answered {} = .ok () c ∧
        c.resolved = [.error (.write (lit "write: Broken pipe"))] := by
  intro portInUse answered
  have hbody : readRequest answered.segments = .ok (lit "SAMLResponse=YQ==") := by decide
  have htoken : extractToken (lit "SAMLResponse=YQ==") = .ok (lit "YQ==") := by decide +kernel
  have hserve : serve answered {} = .error (.write (lit "write: Broken pipe")) {} := by
    rw [serve, hbody]
    simp only [ofOutcome, pure_bind, htoken]
    rfl
  have hthread : thread answered {} =
      .ok () { resolved := [.error (.write (lit "write: Broken pipe"))] } := by
    rw [thread, show answered.acceptor = .ok () from rfl, ofOutcome, pure_bind, run]
    simp only [tryCatch, tryCatchThe, MonadExceptOf.tryCatch, EStateM.tryCatch, hserve]
    rfl
  refine ⟨⟨id, _, _, rfl, rfl⟩, ?_, ⟨rfl, rfl, _, hbody, htoken⟩, _, hthread, rfl⟩
  rw [hthread]
  rintro ⟨result, hresolved, h⟩
  cases hresolved
  exact h ⟨_, rfl, rfl, _, hbody, htoken⟩

end SAMLServer

end OpenLawsVpn
