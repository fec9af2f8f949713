import OpenLawsVpn.Cli.Connect
import OpenLawsVpn.Client
import OpenLawsVpn.Saml.Capture
import Mathlib.Data.List.ReduceOption

/-!
# The program of the CLI

`main` makes a client for the profile, reads the options, and connects
(`Cli.doConnect`); whenever the session ends and has to be authenticated again, it
connects once more (`Cli.reconnect`).

A run meets a list of *rounds*, one for each `do_connect`, with what the library, the
browser and the shell give. What the program does is its trace (`MainAction`): its output,
and its calls of the library and of the capture. How a run ends is its `Exit`.

Of a command line, the last log level counts, and `--standalone` wherever it stands
(`Cli.main_options`).

* `tryConnect`, `reconnect`, `main`: the program, with the loop for new logins as a recursion on
  the rounds it is given;
* `handleOptions`: the loop over the arguments, and `stoi` for the value of a level;
* `wp_handleOptions`: what the loop sets, or the first level that is no number;
* `main_options`: the whole command line.
-/

namespace OpenLawsVpn

open Wp

/-- What the program does. -/
inductive MainAction
  | cli (a : CliAction)
  /-- Phase 1 returns. -/
  | phase1 (result : Phase1Result)
  /-- The token is taken out of the future. -/
  | token (token : Bytes)
  /-- Phase 2 is called, and returns. -/
  | phase2 (stateId token remoteIp : Bytes)
  | connected
  /-- The wait for the end of the session returns. -/
  | disconnected (needReauth : Bool)
  deriving DecidableEq, Repr

/-- How the process ends, or where the run so far stops. -/
inductive Exit
  | status (n : ℕ)
  /-- `std::terminate`, for an exception that a thread does not catch. -/
  | terminated
  | undefined
  | waiting
  deriving DecidableEq, Repr

/-- Why a part of the program does not return: an exception, with its text, or the end of
    the process, or of the run so far. -/
inductive MainStop
  | threw (what : Bytes)
  | terminated
  | undefined
  | waiting
  deriving DecidableEq, Repr

/-- What a `do_connect` meets, and what arrives for the client while the browser is open,
    and while the program waits for the end of the session. -/
structure Round where
  phase1 : Phase1Environment
  system : Bytes → ℤ
  login : List OpenVPNClient.Input := []
  capture : CaptureEnvironment
  phase2 : Phase2Environment
  session : List OpenVPNClient.Input := []

/-- What all rounds share: the readings of the clock, and the text of an exception for a
    request that ends too early. -/
structure MainEnvironment where
  clock : ℕ → Stamp
  eof : Bytes

/-- The state of the program. -/
structure Cli where
  client : OpenVPNClient
  logLevel : ℤ := 1
  trace : List MainAction := []

/-- The programs of the CLI. -/
abbrev CliM := EStateM MainStop Cli

/-- What stops the library stops the program. -/
def Stop.toMain : Stop → MainStop
  | .threw what => .threw what
  | .undefined => .undefined
  | .waiting => .waiting

/-- `e.what()`. -/
def RequestError.what (eof : Bytes) : RequestError → Bytes
  | .invalidArgument => lit "stoul"
  | .outOfRange => lit "stoul"
  | .lengthError => lit "cannot create std::vector larger than max_size()"
  | .eof => eof

/-- An exception in the thread of the capture: `e.what()` when it was set for the promise. -/
def CaptureError.what (eof : Bytes) : CaptureError → Bytes
  | .acceptor what => what
  | .accept what => what
  | .request e => e.what eof
  | .notFound what => what
  | .write what => what
  | .alreadySatisfied => lit "std::future_error: Promise already satisfied"

namespace Cli

variable (env : MainEnvironment)

/-- The settings of the library. -/
def settings (s : Cli) : Settings where
  clock := env.clock
  logLevel := s.logLevel

/-- An action is appended to the trace. -/
def push (a : MainAction) (s : Cli) : Cli := { s with trace := s.trace ++ [a] }

/-- A line to `std::cout`, with the log prefix. -/
def line (text : Bytes) (s : Cli) : Cli :=
  s.push (.cli (.stdout (getLogPrefix (env.clock s.trace.length) ++ text ++ lit "\n")))

/-- A call of the library. -/
def library {α : Type} (call : Settings → ClientM α) : CliM α := fun s =>
  match call (s.settings env) s.client with
  | .ok a client => .ok a { s with client }
  | .error e client => .error e.toMain { s with client }

/-- What arrives for the client. -/
def receive (inputs : List OpenVPNClient.Input) (s : Cli) : Cli :=
  { s with client := s.client.receiveAll (s.settings env) inputs }

/-- `open_browser`. -/
def browse (system : Bytes → ℤ) (url : Bytes) (s : Cli) : Cli :=
  { s with
    trace := s.trace ++
      (openBrowser (fun i => env.clock (s.trace.length + i)) system url).map .cli }

/-- `token_future.get()`: the result that the thread of the capture has set. -/
def getToken (capture : CaptureEnvironment) : CliM Bytes :=
  match SAMLServer.thread capture {} with
  | .error _ _ => throw .terminated
  | .ok () c =>
    match c.resolved with
    | [] => throw .waiting
    | .ok token :: _ => pure token
    | .error e :: _ => throw (.threw (e.what env.eof))

/-- `do_connect`. -/
def doConnect (round : Round) : CliM Unit := do
  modify (line env (lit " Phase 1: connecting to provoke CRV1 challenge..."))
  let phase1 ← library env fun settings => OpenVPNClient.connectPhase1 settings round.phase1
  modify (push (.phase1 phase1))
  modify (line env (lit " SAML URL received: " ++ phase1.samlUrl))
  modify (line env (lit " State ID: " ++ phase1.stateId))
  modify (line env (lit " Please complete SAML login in your browser."))
  modify (browse env round.system phase1.samlUrl)
  modify (receive env round.login)
  let token ← getToken env round.capture
  modify (push (.token token))
  modify (line env (lit " SAML token received."))
  modify (line env (lit " Phase 2: establishing tunnel..."))
  modify (push (.phase2 phase1.stateId token phase1.remoteIp))
  library env fun settings =>
    OpenVPNClient.connectPhase2 settings phase1.stateId token phase1.remoteIp round.phase2
  modify (push .connected)

/-- `wait_for_disconnect`. -/
def waitForDisconnect (session : List OpenVPNClient.Input) : CliM Bool := do
  modify (receive env session)
  let s ← get
  match s.client.waitForDisconnect with
  | none => throw .waiting
  | some needReauth =>
    modify (push (.disconnected needReauth))
    pure needReauth

/-- The loop of `main`, with the rounds to come. -/
def reconnect : List OpenVPNClient.Input → List Round → CliM Unit
  | session, [] => do
    if ← waitForDisconnect env session then
      modify (line env (lit " Session expired. Re-authenticating via SAML..."))
      throw .waiting
  | session, round :: rounds => do
    if ← waitForDisconnect env session then
      modify (line env (lit " Session expired. Re-authenticating via SAML..."))
      doConnect env round
      modify (line env (lit " Tunnel is up."))
      reconnect round.session rounds

/-! ## Options -/

/-- `std::stoi`: white space, a sign, and the digits up to the first other byte. -/
def stoi (s : Bytes) : Option ℤ :=
  let s := s.dropWhile isSpace
  let negative := s.head? = some 45
  let s := if negative ∨ s.head? = some 43 then s.tail else s
  let digits := s.takeWhile isDigit
  let value : ℤ := if negative then -decimalValue digits else decimalValue digits
  if digits = [] ∨ value < -2 ^ 31 ∨ 2 ^ 31 ≤ value then none else some value

/-- The names of the option for the log level. -/
def isLogLevel (arg : Bytes) : Prop := arg = lit "--log-level" ∨ arg = lit "-l"

instance (arg : Bytes) : Decidable (isLogLevel arg) := inferInstanceAs (Decidable (_ ∨ _))

/-- An argument, with those after it: the value of an option is the next one. -/
def handleOption (arg : Bytes) (args : List Bytes) : CliM Unit :=
  if isLogLevel arg then
    match args with
    | [] => pure ()
    | value :: _ =>
      match stoi value with
      | some level => modify ({ · with logLevel := level })
      | none => throw (.threw (lit "stoi"))
  else if arg = lit "--standalone" then
    modify fun s => { s with client := { s.client with mode := .direct } }
  else pure ()

/-- The loop over the arguments. The value of an option is an argument, too. -/
def handleOptions : List Bytes → CliM Unit
  | [] => pure ()
  | arg :: args => do
    handleOption arg args
    handleOptions args

/-- The values of the log level: each argument that follows the name of this option. -/
def levels : List Bytes → List (Option ℤ)
  | arg :: value :: args =>
    if isLogLevel arg then stoi value :: levels (value :: args) else levels (value :: args)
  | _ => []

/-- `--standalone` is among the arguments. -/
def standalone (args : List Bytes) : Bool := args.any (· = lit "--standalone")

/-- The state after the options: the last log level counts. -/
def configured (args : List Bytes) (s : Cli) : Cli :=
  { s with
    client := { s.client with mode := if standalone args then .direct else s.client.mode }
    logLevel := (levels args).reduceOption.getLastD s.logLevel }

/-! ## The program -/

/-- What `main` does after the options. -/
def connect (round : Round) (rounds : List Round) : CliM Unit := do
  doConnect env round
  modify (line env (lit " Tunnel is up."))
  modify (line env (lit " Connected. Press Ctrl-C to disconnect."))
  reconnect env round.session rounds

/-- What `main` tries. -/
def tryConnect (args : List Bytes) (round : Round) (rounds : List Round) : CliM Unit := do
  handleOptions args
  connect env round rounds

/-- How a run ends that was tried. -/
def exit : EStateM.Result MainStop Cli Unit → Exit × List MainAction
  | .ok () s => (.status 0, s.trace)
  | .error (.threw what) s =>
    (.status 1, s.trace ++ [.cli (.stderr (lit "Error: " ++ what ++ lit "\n"))])
  | .error .terminated s => (.terminated, s.trace)
  | .error .undefined s => (.undefined, s.trace)
  | .error .waiting s => (.waiting, s.trace)

/-- `main`, called as `program` with the arguments. -/
def main (program : Bytes) (args : List Bytes) (round : Round) (rounds : List Round) :
    Exit × List MainAction :=
  match args with
  | [] => (.status 1, [.cli (.stderr (lit "Usage: " ++ program ++ lit " connect <config.ovpn>\n"))])
  | command :: args' =>
    if command = lit "connect" then
      match args' with
      | [] => (.status 1, [.cli (.stderr (lit "Error: config file required\n"))])
      | configFile :: _ =>
        exit (tryConnect env args round rounds { client := { configPath := configFile } })
    else (.status 1, [.cli (.stderr (lit "Unknown command: " ++ command ++ lit "\n"))])

/-! ## What the options do -/

variable {env} {s : Cli}

/-- What is no name of this option has no value. -/
theorem levels_of_not {arg : Bytes} (h : ¬isLogLevel arg) (args : List Bytes) :
    levels (arg :: args) = levels args := by
  cases args with
  | nil => rfl
  | cons value args => rw [levels, if_neg h]

theorem standalone_cons (arg : Bytes) (args : List Bytes) :
    standalone (arg :: args) = (decide (arg = lit "--standalone") || standalone args) := rfl

/-- The value of a log level is an argument, too. -/
theorem configured_of_level {arg : Bytes} (h : isLogLevel arg) {value : Bytes} {level : ℤ}
    (hlevel : stoi value = some level) (args : List Bytes) (s : Cli) :
    configured (value :: args) { s with logLevel := level } =
      configured (arg :: value :: args) s := by
  have hne : arg ≠ lit "--standalone" := by rcases h with rfl | rfl <;> decide
  rw [configured, configured, levels, if_pos h, hlevel, List.reduceOption_cons_of_some,
    List.getLastD_cons, standalone_cons arg, decide_eq_false hne, Bool.false_or]

/-- The loop sets what the options say, or throws at the first level that is none. -/
theorem wp_handleOptions (args : List Bytes) :
    wp (handleOptions args)
      (fun _ s' => (levels args).all Option.isSome ∧ s' = s.configured args)
      (fun e s' => ¬(levels args).all Option.isSome ∧ e = .threw (lit "stoi") ∧
        s'.trace = s.trace ∧ s'.client.trace = s.client.trace ∧ s'.client.dbus = s.client.dbus)
      s := by
  -- One argument at a time: the value of a level is an argument again.
  induction args generalizing s with
  | nil => exact ⟨rfl, rfl⟩
  | cons arg args ih =>
    rw [handleOptions, wp_bind, handleOption.eq_def]
    by_cases hlevel : isLogLevel arg
    · rw [if_pos hlevel]
      cases args with
      | nil =>
        -- Without a value, the option is ignored.
        have hne : arg ≠ lit "--standalone" := by rcases hlevel with rfl | rfl <;> decide
        refine ⟨rfl, ?_⟩
        rw [configured, standalone_cons, decide_eq_false hne]
        rfl
      | cons value args =>
        dsimp only
        cases hvalue : stoi value with
        | none => exact ⟨by simp [levels, hlevel, hvalue], rfl, rfl, rfl, rfl⟩
        | some level =>
          rw [wp_modify]
          refine wp_mono ih (fun _ s' h => ?_) fun e s' h => ?_
          · rw [configured_of_level hlevel hvalue] at h
            exact ⟨by simpa [levels, hlevel, hvalue] using h.1, h.2⟩
          · exact ⟨by simpa [levels, hlevel, hvalue] using h.1, h.2⟩
    · rw [if_neg hlevel]
      simp only [levels_of_not hlevel]
      by_cases hstandalone : arg = lit "--standalone"
      · rw [if_pos hstandalone, wp_modify]
        refine wp_mono ih (fun _ s' h => ⟨h.1, ?_⟩) fun e s' h => h
        rw [h.2, configured, configured, standalone_cons, levels_of_not hlevel,
          decide_eq_true hstandalone]
        simp
      · rw [if_neg hstandalone, wp_pure]
        refine wp_mono ih (fun _ s' h => ⟨h.1, ?_⟩) fun e s' h => h
        rw [h.2, configured, configured, standalone_cons, levels_of_not hlevel,
          decide_eq_false hstandalone, Bool.false_or]

/-- A command line is carried out with its options, unless the value of a log level is no
    number; then nothing is done but to say so. -/
theorem main_options (env : MainEnvironment) (program configFile : Bytes) (args : List Bytes)
    (round : Round) (rounds : List Round) :
    let args' := lit "connect" :: configFile :: args
    main env program args' round rounds =
      if (levels args').all Option.isSome then
        exit (connect env round rounds
          (configured args' { client := { configPath := configFile } }))
      else (.status 1, [.cli (.stderr (lit "Error: stoi\n"))]) := by
  intro args'
  set s : Cli := { client := { configPath := configFile } }
  have hmain :
      main env program args' round rounds = exit (tryConnect env args' round rounds s) := by
    rw [main.eq_def]
    simp only [args', if_true]
    rfl
  -- The options come first, and the rest is done with what they leave.
  have htry : tryConnect env args' round rounds s = match handleOptions args' s with
      | .ok () s' => connect env round rounds s'
      | .error e s' => .error e s' := by
    rw [tryConnect]
    change EStateM.bind _ _ _ = _
    rw [EStateM.bind]
    cases handleOptions args' s <;> rfl
  have hwp := wp_handleOptions (s := s) args'
  rw [wp] at hwp
  rw [hmain, htry]
  cases hoptions : handleOptions args' s with
  | ok a s' =>
    rw [hoptions] at hwp
    obtain ⟨hall, rfl⟩ := hwp
    exact (if_pos hall).symm
  | error e s' =>
    rw [hoptions] at hwp
    obtain ⟨hall, rfl, htrace, -⟩ := hwp
    rw [if_neg hall, exit, htrace]
    rfl

end Cli

end OpenLawsVpn
