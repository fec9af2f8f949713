import OpenLawsVpn.DBus.Protocol

/-!
# The order of the calls

What the protocol of a session says about its words holds of the calls of every attempt:
the session that connects was created before, and the four calls before `Connect` provide
the user name and the password, find the session ready and ask for its signals; after it,
there are but the polls of the two properties, and disconnecting at the end
(`calls_around_connect`). Besides the polls, there are at most 93 calls
(`length_calls_le`).

* `WasCreated`: the session of an action was created before it, in the trace;
* `calls_around_connect`: what comes before and after `Connect`, for every attempt;
* `countActs_connect`: the bound on the calls, however long the attempt waits.
-/

namespace OpenLawsVpn.DBusClient

open Wp

/-- Reading a property of the session. -/
def IsPoll (session : Bytes) : Call → Prop
  | .getStatus session' _ => session' = session
  | .getConnectedTo session' _ => session' = session
  | _ => False

/-- The calls by which a session is set up, before it connects. -/
def login (session credential : Bytes) (username password logForward : Except GError Unit) :
    List Call :=
  [.userInputProvide session 1 1 0 (lit "N/A") username,
    .userInputProvide session 1 1 1 credential password, .ready session (.ok ()),
    .logForward session logForward]

/-! ## What a step can do -/

/-- The calls that can be due on a session, and the turn after each. -/
inductive Turn.Step (session credential : Bytes) : Turn → Call → Option Turn → Prop
  | appeared (tried : ℕ) (h : tried < 20) : Step session credential (.introspect tried)
      (.introspect session true) (some (.username 0))
  | absent (tried : ℕ) (h : tried < 20) : Step session credential (.introspect tried)
      (.introspect session false) (some (.introspect (tried + 1)))
  | username (tried : ℕ) (reply : Except GError Unit) (h : tried < 20) :
      Step session credential (.username tried) (.userInputProvide session 1 1 0 (lit "N/A") reply)
        (some (.password tried))
  | password (tried : ℕ) (reply : Except GError Unit) :
      Step session credential (.password tried) (.userInputProvide session 1 1 1 credential reply)
        (some (.ready tried))
  | ready (tried : ℕ) : Step session credential (.ready tried) (.ready session (.ok ()))
      (some .logForward)
  | notReady (tried : ℕ) (e : GError) : Step session credential (.ready tried)
      (.ready session (.error e)) (some (.username (tried + 1)))
  | logForward (reply : Except GError Unit) : Step session credential .logForward
      (.logForward session reply) (some .connect)
  | connect : Step session credential .connect (.connect session (.ok ())) (some .status)
  | refused (e : GError) : Step session credential .connect (.connect session (.error e)) none
  | getStatus (reply : Option Status) (turn : Turn) (h : turn = .decided ∨ turn = .connectedTo) :
      Step session credential .status (.getStatus session reply) (some turn)
  | getConnectedTo (reply : Option CString) (turn : Turn) (h : turn = .decided ∨ turn = .status) :
      Step session credential .connectedTo (.getConnectedTo session reply) (some turn)
  | disconnect (turn : Turn) (h : turn = .status ∨ turn = .decided) :
      Step session credential turn (.disconnect session) none

variable {content credential path : Bytes} {word : List Call} {stage stage' : Stage} {k : Call}

/-- A call on the session is the next one of its turn. -/
theorem Turn.step_cases {turn : Turn} {turn' : Option Turn} (hk : session? k = some path)
    (h : turn.step credential k = some turn') : turn.Step path credential k turn' := by
  -- A turn takes no calls but its own.
  cases turn <;> cases k <;> simp only [Turn.step, reduceCtorEq] at h <;> cases hk
  case introspect.introspect tried reply =>
    obtain ⟨htried, h⟩ := Option.ite_none_right_eq_some.1 h
    cases reply <;> obtain rfl := Option.some.inj h
    · exact .absent tried htried
    · exact .appeared tried htried
  case username.userInputProvide tried type group id value reply =>
    obtain ⟨⟨htried, rfl, rfl, rfl, rfl⟩, hturn⟩ := Option.ite_none_right_eq_some.1 h
    exact Option.some.inj hturn ▸ .username tried reply htried
  case password.userInputProvide tried type group id value reply =>
    obtain ⟨⟨rfl, rfl, rfl, rfl⟩, hturn⟩ := Option.ite_none_right_eq_some.1 h
    exact Option.some.inj hturn ▸ .password tried reply
  case ready.ready tried reply =>
    cases reply with
    | ok => exact Option.some.inj h ▸ .ready tried
    | error e => exact Option.some.inj h ▸ .notReady tried e
  case logForward.logForward reply => exact Option.some.inj h ▸ .logForward reply
  case connect.connect reply =>
    cases reply with
    | ok => exact Option.some.inj h ▸ .connect
    | error e => exact Option.some.inj h ▸ .refused e
  case status.getStatus reply =>
    obtain rfl := Option.some.inj h
    exact .getStatus reply _ (ite_eq_or_eq ..)
  case connectedTo.getConnectedTo reply =>
    obtain rfl := Option.some.inj h
    exact .getConnectedTo reply _ (ite_eq_or_eq ..)
  case status.disconnect => exact Option.some.inj h ▸ .disconnect _ (.inl rfl)
  case decided.disconnect => exact Option.some.inj h ▸ .disconnect _ (.inr rfl)

/-- What a step of the protocol can do. -/
theorem Stage.step_cases (h : stage.step content credential k = some stage') :
    (∃ tried reply, stage = .importConfig tried ∧ tried < 5 ∧ k = .importConfig content reply ∧
      stage' = .ofReply (.newTunnel · 0) (.importConfig (tried + 1)) importRetried reply) ∨
    (∃ config tried reply, stage = .newTunnel config tried ∧ tried < 5 ∧
      k = .newTunnel config reply ∧ stage' = .ofReply (.session · (.introspect 0))
        (.newTunnel config (tried + 1)) newTunnelRetried reply) ∨
    ∃ path turn turn', stage = .session path turn ∧ turn.Step path credential k turn' ∧
      stage' = turn'.elim .ended (.session path) := by
  -- Each stage takes one call of its own, with what the stages before found out.
  cases stage with
  | importConfig tried =>
    cases k with
    | importConfig text reply =>
      obtain ⟨⟨htried, rfl⟩, hstage⟩ := Option.ite_none_right_eq_some.1 h
      exact .inl ⟨tried, reply, rfl, htried, rfl, (Option.some.inj hstage).symm⟩
    | _ => cases h
  | newTunnel config tried =>
    cases k with
    | newTunnel config' reply =>
      obtain ⟨⟨htried, rfl⟩, hstage⟩ := Option.ite_none_right_eq_some.1 h
      exact .inr (.inl ⟨_, tried, reply, rfl, htried, rfl, (Option.some.inj hstage).symm⟩)
    | _ => cases h
  | session path turn =>
    rw [Stage.step] at h
    obtain ⟨hk, h⟩ := Option.ite_none_right_eq_some.1 h
    obtain ⟨turn', hturn, rfl⟩ := Option.map_eq_some_iff.1 h
    exact .inr (.inr ⟨path, turn, turn', rfl, Turn.step_cases hk hturn, rfl⟩)
  | ended => cases h

/-! ## Words of the protocol -/

/-- The session was created in the word. -/
def WasCreated (word : List Call) (session : Bytes) : Prop :=
  ∃ config p, .newTunnel config (.ok p) ∈ word ∧ p.bytes = session

/-- How many of the calls of a login the word ends with. -/
def Turn.loggedIn : Turn → ℕ
  | password _ => 1
  | ready _ => 2
  | logForward => 3
  | connect => 4
  | _ => 0

/-- What a word tells of the stage that it leads to: the session was created, and the
    calls that are due are the next of a login. -/
def Stage.Recalls (credential : Bytes) (word : List Call) : Stage → Prop
  | session path turn => WasCreated word path ∧ ∃ username password logForward,
      (login path credential username password logForward).take turn.loggedIn <:+ word
  | _ => True

/-- A session that was created was created before what follows. -/
theorem WasCreated.append {session : Bytes} (h : WasCreated word session) (word' : List Call) :
    WasCreated (word ++ word') session := by
  obtain ⟨config, p, hp, heq⟩ := h
  exact ⟨config, p, List.mem_append_left _ hp, heq⟩

/-- A stage recalls the calls that lead to it. -/
theorem Stage.Recalls.step (h : stage.Recalls credential word)
    (hstep : stage.step content credential k = some stage') :
    stage'.Recalls credential (word ++ [k]) := by
  rcases Stage.step_cases hstep with ⟨tried, reply, rfl, -, rfl, rfl⟩ |
    ⟨config, tried, reply, rfl, -, rfl, rfl⟩ | ⟨path, turn, turn', rfl, hturn, rfl⟩
  · cases reply with
    | ok => trivial
    | error e =>
      rw [Stage.ofReply]
      split_ifs <;> trivial
  · cases reply with
    | ok p =>
      exact ⟨⟨config, p, List.mem_append_right _ List.mem_cons_self, rfl⟩, .ok (), .ok (), .ok (),
        List.nil_suffix⟩
    | error e =>
      rw [Stage.ofReply]
      split_ifs <;> trivial
  · obtain ⟨hcreated, username, password, logForward, hlogin⟩ := h
    have hcreated := hcreated.append [k]
    -- What the word ended with, it ends with before the new call.
    have hnext : ∀ l : List Call, l <:+ word → l ++ [k] <:+ word ++ [k] := fun l hl => by
      obtain ⟨pre, rfl⟩ := hl
      exact ⟨pre, by rw [List.append_assoc]⟩
    have hlogin := hnext _ hlogin
    cases hturn with
    | username tried reply => exact ⟨hcreated, reply, .ok (), .ok (), hlogin⟩
    | password tried reply => exact ⟨hcreated, username, reply, .ok (), hlogin⟩
    | ready tried => exact ⟨hcreated, username, password, .ok (), hlogin⟩
    | logForward reply => exact ⟨hcreated, username, password, reply, hlogin⟩
    | disconnect => trivial
    | refused => trivial
    | getStatus reply turn h =>
      rcases h with rfl | rfl <;> exact ⟨hcreated, .ok (), .ok (), .ok (), List.nil_suffix⟩
    | getConnectedTo reply turn h =>
      rcases h with rfl | rfl <;> exact ⟨hcreated, .ok (), .ok (), .ok (), List.nil_suffix⟩
    | _ => exact ⟨hcreated, .ok (), .ok (), .ok (), List.nil_suffix⟩

/-- After `Connect`, a word has only polls, and a disconnection at its end. -/
theorem polls_of_run {turn : Turn} (hturn : turn = .status ∨ turn = .connectedTo ∨ turn = .decided)
    (h : Runs.run (Stage.step content credential) (.session path turn) word = some stage) :
    ∃ polls, (word = polls ∨ word = polls ++ [.disconnect path]) ∧ ∀ k ∈ polls, IsPoll path k := by
  induction word generalizing turn with
  | nil => exact ⟨[], .inl rfl, fun _ hk => absurd hk List.not_mem_nil⟩
  | cons k word ih =>
    obtain ⟨stage', hk, hrun⟩ := Option.bind_eq_some_iff.1 h
    -- A poll leads to a turn from which the induction hypothesis goes on.
    have hpoll : ∀ turn', (turn' = .status ∨ turn' = .connectedTo ∨ turn' = .decided) →
        stage' = .session path turn' → IsPoll path k → ∃ polls, (k :: word = polls ∨
          k :: word = polls ++ [.disconnect path]) ∧ ∀ k ∈ polls, IsPoll path k := by
      rintro turn' hturn' rfl hpoll
      obtain ⟨polls, hword, hpolls⟩ := ih hturn' hrun
      exact ⟨k :: polls, hword.imp (congrArg (k :: ·)) (congrArg (k :: ·)),
        List.forall_mem_cons.2 ⟨hpoll, hpolls⟩⟩
    rcases Stage.step_cases hk with ⟨_, _, h, -⟩ | ⟨_, _, _, h, -⟩ | ⟨_, _, turn', h, hstep, rfl⟩
    · cases h
    · cases h
    cases h
    cases hstep with
    | getStatus reply turn' hreply =>
      exact hpoll turn' (hreply.elim (.inr ∘ .inr) (.inr ∘ .inl)) rfl rfl
    | getConnectedTo reply turn' hreply =>
      exact hpoll turn' (hreply.elim (.inr ∘ .inr) .inl) rfl rfl
    | disconnect =>
      cases word with
      | nil => exact ⟨[], .inr rfl, fun _ hk => absurd hk List.not_mem_nil⟩
      | cons k word => cases hrun
    | _ => simp at hturn

/-! ## How many calls there are -/

/-- The call does not read a property: what an attempt does besides polling. -/
def acts (k : Call) : Bool :=
  match k with
  | .getStatus .. => false
  | .getConnectedTo .. => false
  | _ => true

/-- The number of calls besides the polls. -/
def countActs (word : List Call) : ℕ := word.countP acts

/-- The most calls besides the polls that there can still be. -/
def Turn.left : Turn → ℕ
  | introspect tried => 83 - tried
  | username tried => 63 - 3 * tried
  | password tried => 62 - 3 * tried
  | ready tried => 61 - 3 * tried
  | logForward => 3
  | connect => 2
  | _ => 1

/-- The number of calls that may follow, besides the polls. -/
def Stage.left : Stage → ℕ
  | importConfig tried => 93 - tried
  | newTunnel _ tried => 88 - tried
  | session _ turn => turn.left
  | ended => 0

/-- The attempts at a login are counted. -/
def Stage.Counted : Stage → Prop
  | session _ (.password tried) => tried < 20
  | session _ (.ready tried) => tried < 20
  | _ => True

/-- Each call takes one off, except for a poll. -/
theorem left_step (hcounted : stage.Counted)
    (hstep : stage.step content credential k = some stage') :
    stage'.Counted ∧ countActs [k] + stage'.left ≤ stage.left := by
  rcases Stage.step_cases hstep with ⟨tried, reply, rfl, htried, rfl, rfl⟩ |
    ⟨config, tried, reply, rfl, htried, rfl, rfl⟩ | ⟨path, turn, turn', rfl, hturn, rfl⟩
  · have hacts : countActs [.importConfig content reply] = 1 := rfl
    cases reply with
    | ok p => exact ⟨trivial, by rw [hacts, Stage.ofReply, Stage.left, Stage.left]; omega⟩
    | error e =>
      rw [hacts, Stage.ofReply]
      split_ifs <;> exact ⟨trivial, by simp only [Stage.left]; omega⟩
  · have hacts : countActs [.newTunnel config reply] = 1 := rfl
    cases reply with
    | ok p =>
      refine ⟨trivial, ?_⟩
      rw [hacts, Stage.ofReply, Stage.left, Stage.left, Turn.left]
      omega
    | error e =>
      rw [hacts, Stage.ofReply]
      split_ifs <;> exact ⟨trivial, by simp only [Stage.left]; omega⟩
  · have hacts : countActs [k] = if acts k then 1 else 0 := by
      rw [countActs, List.countP_singleton]
    have hleft : ∀ turn', (Stage.session path turn').left = turn'.left := fun _ => rfl
    cases hturn with
    | appeared tried h | absent tried h =>
      refine ⟨trivial, ?_⟩
      simp only [hacts, acts, if_true, Option.elim, hleft, Turn.left]
      omega
    | username tried reply h =>
      refine ⟨h, ?_⟩
      simp only [hacts, acts, if_true, Option.elim, hleft, Turn.left]
      omega
    | password tried reply =>
      have htried : tried < 20 := hcounted
      refine ⟨htried, ?_⟩
      simp only [hacts, acts, if_true, Option.elim, hleft, Turn.left]
      omega
    | ready tried | notReady tried =>
      have htried : tried < 20 := hcounted
      refine ⟨trivial, ?_⟩
      simp only [hacts, acts, if_true, Option.elim, hleft, Turn.left]
      omega
    | logForward reply => exact ⟨trivial, le_rfl⟩
    | connect => exact ⟨trivial, le_rfl⟩
    | refused e => exact ⟨trivial, Nat.le_succ 1⟩
    -- A poll is not counted, and takes nothing away.
    | getStatus reply turn h => rcases h with rfl | rfl <;> exact ⟨trivial, le_rfl⟩
    | getConnectedTo reply turn h => rcases h with rfl | rfl <;> exact ⟨trivial, le_rfl⟩
    | disconnect turn h => rcases h with rfl | rfl <;> exact ⟨trivial, le_rfl⟩

/-- A word of the protocol has at most 93 calls besides the polls. -/
theorem countActs_le
    (h : Runs.run (Stage.step content credential) (.importConfig 0) word = some stage) :
    countActs word ≤ 93 := by
  have hcount := Runs.reached_word (Q := fun word stage =>
    stage.Counted ∧ countActs word + stage.left ≤ 93) ⟨trivial, le_rfl⟩ (fun hcount hstep => by
      obtain ⟨hcounted, hle⟩ := left_step hcount.1 hstep
      have happend : ∀ (word : List Call) (k : Call),
          countActs (word ++ [k]) = countActs word + countActs [k] := fun _ _ => List.countP_append
      exact ⟨hcounted, by rw [happend]; omega⟩) h
  omega

/-! ## The calls of an attempt -/

section Attempt

variable (env : Environment) (configFile stateId token remoteIp : Bytes) (level : ℤ)

/-- The calls of an attempt are a word of the protocol, whatever the profile has. -/
theorem exists_stage :
    ∃ content stage, Runs.run (Stage.step content
        (cStr (lit "CRV1::" ++ stateId ++ lit "::" ++ token))) (.importConfig 0)
      (calls (endState (connect env configFile stateId token remoteIp
        { logLevel := level })).trace) = some stage := by
  cases hconfig : readAndFilterConfig configFile env.file with
  | error what =>
    -- Without a profile, nothing is called.
    rw [connect, hconfig]
    exact ⟨[], .importConfig 0, rfl⟩
  | ok config =>
    refine ⟨cStr (importText config remoteIp), endState_of_wp (P := fun c : DBusClient =>
      ∃ stage, Runs.run _ _ (calls c.trace) = some stage) ?_⟩
    refine wp_mono (wp_connect_protocol hconfig stateId token remoteIp rfl) (fun _ c h => ?_)
      fun e c h => ?_
    · obtain ⟨stage, h, -⟩ := h
      exact ⟨stage, h.run⟩
    · rcases h with ⟨-, stage, h, -⟩ | ⟨-, stage, h, -⟩
      · exact ⟨stage, h.run⟩
      · exact ⟨stage, h.run⟩

/-- An attempt makes at most 93 calls besides the polls, however long it waits. -/
theorem countActs_connect :
    countActs (calls (endState (connect env configFile stateId token remoteIp
      { logLevel := level })).trace) ≤ 93 := by
  obtain ⟨content, stage, h⟩ := exists_stage env configFile stateId token remoteIp level
  exact countActs_le h

variable {env configFile stateId token remoteIp level}

/-- Before `Connect`, an attempt creates the session and logs in; after it, there are but
    polls, and a disconnection at the end; and nothing when it is refused. -/
theorem calls_around_connect {before after : List Call} {session : Bytes}
    {reply : Except GError Unit}
    (hcalls : calls (endState (connect env configFile stateId token remoteIp
      { logLevel := level })).trace = before ++ .connect session reply :: after) :
    (∃ setUp username password logForward, before = setUp ++ login session
        (cStr (lit "CRV1::" ++ stateId ++ lit "::" ++ token)) username password logForward ∧
      WasCreated setUp session) ∧
    (∃ polls, (after = polls ∨ after = polls ++ [.disconnect session]) ∧
      ∀ k ∈ polls, IsPoll session k) ∧
    (reply ≠ .ok () → after = []) := by
  obtain ⟨content, stage, h⟩ := exists_stage env configFile stateId token remoteIp level
  rw [hcalls, Runs.run_append] at h
  obtain ⟨stage₁, hbefore, h⟩ := Option.bind_eq_some_iff.1 h
  obtain ⟨stage₂, hconnect, hafter⟩ := Option.bind_eq_some_iff.1 h
  -- `Connect` is no call before the session.
  rcases Stage.step_cases hconnect with ⟨_, _, -, -, h, -⟩ | ⟨_, _, _, -, -, h, -⟩ |
    ⟨path, turn, turn', rfl, hturn, rfl⟩
  · cases h
  · cases h
  -- What was called before is recalled by the stage in which `Connect` is called.
  have hrecalls : (Stage.session path turn).Recalls
      (cStr (lit "CRV1::" ++ stateId ++ lit "::" ++ token)) before :=
    Runs.reached_word (Q := fun word stage => stage.Recalls
      (cStr (lit "CRV1::" ++ stateId ++ lit "::" ++ token)) word) trivial Stage.Recalls.step hbefore
  have hlogin : turn.loggedIn = 4 → ∃ setUp username password logForward,
      before = setUp ++ login path (cStr (lit "CRV1::" ++ stateId ++ lit "::" ++ token)) username
        password logForward ∧ WasCreated setUp path := fun hturn => by
    obtain ⟨hcreated, username, password, logForward, setUp, rfl⟩ := hrecalls
    refine ⟨setUp, username, password, logForward, by rw [hturn]; rfl, ?_⟩
    obtain ⟨config, p, hp, hpath⟩ := hcreated
    rw [hturn] at hp
    exact ⟨config, p, (List.mem_append.1 hp).resolve_right (by simp [login]), hpath⟩
  cases hturn with
  | connect => exact ⟨hlogin rfl, polls_of_run (.inl rfl) hafter, fun hreply => absurd rfl hreply⟩
  | refused e =>
    have hnil : after = [] := by
      cases after with
      | nil => rfl
      | cons k after => cases hafter
    exact ⟨hlogin rfl, ⟨[], .inl hnil, by simp⟩, fun _ => hnil⟩

end Attempt

/-- The services set a session up, and it connects. -/
theorem calls_around_connect_setsUp :
    let session := lit "/net/openvpn/v3/sessions/s"
    let word := calls (endState (connect setsUp (lit "vpn.ovpn") (lit "state") (lit "token") []
      { logLevel := 1 })).trace
    word = word.dropLast ++ .connect session (.ok ()) :: [] ∧
      (∃ setUp username password logForward, word.dropLast = setUp ++ login session
          (cStr (lit "CRV1::" ++ lit "state" ++ lit "::" ++ lit "token")) username password
            logForward ∧ WasCreated setUp session) ∧
      (∃ polls, ([] = polls ∨ [] = polls ++ [.disconnect session]) ∧
        ∀ k ∈ polls, IsPoll session k) ∧
      ((.ok () : Except GError Unit) ≠ .ok () → ([] : List Call) = []) := by
  intro session word
  have hword : word = word.dropLast ++ .connect session (.ok ()) :: [] := rfl
  exact ⟨hword, calls_around_connect hword⟩

end OpenLawsVpn.DBusClient
