import OpenLawsVpn.Cli.Credentials
import OpenLawsVpn.Saml.Agreement

/-!
# A login from end to end

In direct mode, `do_connect` returns exactly if each of its stages does what it is for: the
profile is read and accepted, a challenge arrives and no failure, a token is received and
the page is written back, and the second core client is connected before it fails
(`Round.Succeeds`, `doConnect_returns_iff`).

What the browser posts for the response `d` of an identity provider, in either alphabet of
base64 and with its line ends, in a form with other fields, and in whatever segments it
arrives, then reaches the core as the answer to the challenge (`doConnect_posts`).

* `Round.Succeeds`: the stages, each by what it needs of its environment;
* `doConnect_returns_iff`: a login returns exactly if all of them succeed, in direct mode;
* `Post`: the form that the browser posts, with the response among its fields;
* `doConnect_posts`: the way of the response from the browser to the core, end to end.
-/

namespace OpenLawsVpn

open Wp

/-! ## The browser -/

/-- The token of a form is the value of the field, if no key before it ends in its name. -/
theorem extractToken_of_field {before after : List (Bytes × Bytes)} {value body : Bytes}
    (h : Form.Serializes (before ++ (lit "SAMLResponse", value) :: after) body)
    (hfirst : ∀ p ∈ before, ¬lit "SAMLResponse" <:+ p.1) :
    extractToken body = .ok (normalizeBase64 value) := by
  have hname : ∀ c ∈ lit "SAMLResponse", Form.isUnreserved c := by decide
  obtain ⟨pre, ev, r, rfl, hfind, hvalue, hr⟩ := Form.find_field_some hname rfl h hfirst
  have hfound := extractToken_of_found hvalue.separator_notMem.2 hr hfind
  rwa [urlDecode_encodes hvalue] at hfound

/-- A request in which the browser posts the response `d` of the identity provider: as a
    field of a form, in a form of base64, broken by line ends. -/
structure Post (d : Bytes) where
  header : HeaderBlock
  before : List (Bytes × Bytes)
  text : Bytes
  after : List (Bytes × Bytes)
  body : Bytes
  recognised : header.Recognised
  length_eq : header.length = body.length
  length_le : body.length ≤ vectorMaxSize
  serializes : Form.Serializes (before ++ (lit "SAMLResponse", text) :: after) body
  first : ∀ p ∈ before, ¬lit "SAMLResponse" <:+ p.1
  isText : Base64.IsText d text

namespace Post

variable {d : Bytes} (post : Post d)

/-- The request as it is sent. -/
def render : Bytes := post.header.render ++ post.body

/-- The token of the form is the response in base64. -/
theorem extractToken_body : extractToken post.body = .ok (Base64.encode {} d) := by
  rw [extractToken_of_field post.serializes post.first, normalizeBase64_isText post.isText]

/-- The body is read whole, in whatever segments the request arrives. -/
theorem readRequest_render {segments : List Bytes} (hsegments : segments.flatten = post.render) :
    readRequest segments = .ok post.body := by
  obtain ⟨segments', hread, hleft, hk⟩ := readUntil_render hsegments
  generalize Segmented.overread post.header.render.length segments = k at hread hleft hk
  have htake : (post.body.take k).length = k := List.length_take_of_le hk
  have hle := post.length_le
  have hsize : post.body.length < sizeTValues := hle.trans_lt (by decide)
  rw [readRequest, hread]
  simp only [post.header.readHeaders_render, if_pos post.recognised, post.length_eq, if_pos hsize]
  rw [readBody_of_le hsize (by omega) (by rw [hleft, htake, List.length_drop]; omega), htake,
    if_pos (by omega), hleft, ← List.length_drop, List.take_length, List.take_append_drop]

theorem received {capture : CaptureEnvironment} (hacceptor : capture.acceptor = .ok ())
    (haccept : capture.accept = .ok ()) (hsegments : capture.segments.flatten = post.render) :
    capture.Received (Base64.encode {} d) :=
  ⟨hacceptor, haccept, post.body, post.readRequest_render hsegments, post.extractToken_body⟩

end Post

/-! ## The login -/

/-- Each stage of a login does what it is for. -/
structure Round.Succeeds (round : Round) : Prop where
  phase1 : round.phase1.Provokes
  received : ∃ token, round.capture.Received token
  written : round.capture.write = .ok ()
  phase2 : round.phase2.Connects

/-- The login hands the answer to its challenge over, and has opened the browser for it. -/
def Round.Completes (round : Round) (passwords : List Bytes) (s : Cli) : Prop :=
  ∃ result token, round.phase1.Challenges result ∧ round.capture.Received token ∧
    given s.client.trace = passwords ++ [probe, password result.stateId token] ∧
    (result.samlUrl ≠ [] → .cli (.system (xdgOpenCommand (fullUrl result.samlUrl))) ∈ s.trace)

namespace Cli

variable {env : MainEnvironment} {s : Cli}

/-- The browser is opened on the URL. -/
theorem system_mem_browse (s : Cli) (system : Bytes → ℤ) {url : Bytes} (hurl : url ≠ []) :
    .cli (.system (xdgOpenCommand (fullUrl url))) ∈ (s.browse env system url).trace := by
  refine List.mem_append_right _ (List.mem_map_of_mem ?_)
  rw [openBrowser]
  split_ifs <;> simp_all

variable (env) in
/-- In direct mode, a login returns exactly if each of its stages does what it is for. -/
theorem wp_doConnect_succeeds (hmode : s.client.mode = .direct) (hdbus : s.client.dbus = none)
    (round : Round) :
    wp (doConnect env round)
      (fun _ s' => round.Succeeds ∧ round.Completes (given s.client.trace) s')
      (fun _ _ => ¬round.Succeeds) s := by
  have h : s.client.Handed .direct (given s.client.trace) fun _ => True :=
    ⟨hmode, rfl, fun d hd => by rw [hdbus] at hd; cases hd⟩
  simp only [doConnect, wp_bind, wp_modify, wp_library]
  refine wp_mono (wp_and (wp_and (h.wp_connectPhase1 round.phase1)
    (OpenVPNClient.wp_connectPhase1_challenge _ round.phase1 _))
    (OpenVPNClient.wp_connectPhase1_returns round.phase1)) (fun result client hphase1 => ?_)
    fun e client hphase1 hsucceeds => hphase1.2 hsucceeds.phase1
  obtain ⟨⟨h, hresult⟩, hprovokes⟩ := hphase1
  have h := h.receiveAll (s.settings env) round.login
  refine wp_getToken (fun token htoken hwrite => ?_) fun e hnot hsucceeds => ?_
  swap
  · obtain ⟨token, htoken⟩ := hsucceeds.received
    exact hnot token ⟨htoken, hsucceeds.written⟩
  refine wp_mono (wp_and (h.wp_connectPhase2 trivial result.remoteIp round.phase2)
    (OpenVPNClient.wp_connectPhase2_returns h.mode_eq result.stateId token result.remoteIp
      round.phase2)) (fun _ client hphase2 => ?_) fun e client hphase2 hsucceeds =>
        hphase2.2 hsucceeds.phase2
  obtain ⟨⟨-, h⟩ | ⟨hmode, -⟩, hconnects⟩ := hphase2
  swap
  · cases hmode
  refine ⟨⟨hprovokes, ⟨token, htoken⟩, hwrite, hconnects⟩, result, token, hresult, htoken,
    h.given_eq.trans (List.append_assoc ..), fun hurl => ?_⟩
  -- What follows in the trace is appended.
  refine List.mem_append_left _ (List.mem_append_left _ (List.mem_append_left _
    (List.mem_append_left _ (List.mem_append_left _ ?_))))
  exact system_mem_browse _ round.system hurl

/-- `do_connect` returns exactly if each of its stages does what it is for. -/
theorem doConnect_returns_iff (hmode : s.client.mode = .direct) (hdbus : s.client.dbus = none)
    (round : Round) : (∃ s', doConnect env round s = .ok () s') ↔ round.Succeeds := by
  have hwp := wp_doConnect_succeeds env hmode hdbus round
  rw [wp] at hwp
  cases hrun : doConnect env round s with
  | ok a s' =>
    rw [hrun] at hwp
    exact iff_of_true ⟨s', rfl⟩ hwp.1
  | error e s' =>
    rw [hrun] at hwp
    exact iff_of_false (by simp) hwp

/-- A login in which the challenge `m` arrives last and the browser posts the response `d`
    hands the state id of `m` and `d` over to the core, which gets both back. -/
theorem doConnect_posts (hmode : s.client.mode = .direct) (hdbus : s.client.dbus = none)
    {round : Round} {m : Crv1} {d : Bytes} (post : Post d) (hphase1 : round.phase1.Provokes)
    (hlast : (challenges round.phase1.inputs).getLast? = some (m.stateId, m.text))
    (hacceptor : round.capture.acceptor = .ok ()) (haccept : round.capture.accept = .ok ())
    (hwrite : round.capture.write = .ok ())
    (hsegments : round.capture.segments.flatten = post.render) (hphase2 : round.phase2.Connects) :
    ∃ s' answer, doConnect env round s = .ok () s' ∧
      given s'.client.trace = given s.client.trace ++ [probe, answer] ∧
      (receivePassword answer).map (Prod.map id Base64.decode) = some (m.stateId, d) ∧
      (m.text ≠ [] → .cli (.system (xdgOpenCommand (fullUrl m.text))) ∈ s'.trace) := by
  have hreceived := post.received hacceptor haccept hsegments
  have hsucceeds : round.Succeeds := ⟨hphase1, ⟨_, hreceived⟩, hwrite, hphase2⟩
  have hwp := wp_doConnect_succeeds env hmode hdbus round
  rw [wp] at hwp
  cases hrun : doConnect env round s with
  | error e s' =>
    rw [hrun] at hwp
    exact absurd hsucceeds hwp
  | ok a s' =>
    rw [hrun] at hwp
    obtain ⟨-, result, token, hresult, htoken, hgiven, hsystem⟩ := hwp
    -- The token of the run is the one that was posted, and its challenge the last.
    obtain rfl := SAMLServer.received_unique htoken hreceived
    obtain ⟨hstateId, htext⟩ := Prod.mk.inj (Option.some_inj.1 (hresult.challenge.symm.trans hlast))
    rw [hstateId] at hgiven
    rw [htext] at hsystem
    refine ⟨s', _, rfl, hgiven, ?_, hsystem⟩
    rw [receivePassword_password m.colon_notMem_stateId]
    exact congrArg (fun d => some (m.stateId, d)) (Base64.decode_encode {} d)

end Cli

/-- A response in a form with a `RelayState`. -/
def relayedPost : Post (lit "hi") where
  header := {
    before := [lit "POST / HTTP/1.1", lit "Host: 127.0.0.1:35001"]
    name := lit "Content-Length"
    blanks := lit "  "
    digits := lit "32"
    trailing := lit "\t"
    after := []
    name_eq := by decide
    blanks_eq := by decide
    digits_eq := by decide
    digits_ne := by decide
    trailing_eq := by decide
    line_ne := by decide }
  before := [(lit "RelayState", lit "x")]
  text := lit "aGk="
  after := []
  body := lit "RelayState=x&SAMLResponse=aGk%3D"
  recognised := by decide
  length_eq := by decide
  length_le := by decide
  serializes := by
    have hpadding : Form.Encodes (lit "=") (lit "%3D" ++ []) :=
      .cons (.escaped (by decide) (by decide) rfl rfl) .nil
    have hvalue : Form.Encodes (lit "aGk=") (lit "aGk%3D") :=
      .cons (.unreserved (by decide)) (.cons (.unreserved (by decide))
        (.cons (.unreserved (by decide)) hpadding))
    exact .cons (Form.encodes_self (by decide)) (Form.encodes_self (by decide))
      (.single (Form.encodes_self (by decide)) hvalue)
  first := by decide
  isText := ⟨{}, by decide⟩

/-- The header arrives before the body, and the body in two segments. -/
def relayedRound : Round where
  phase1 := {
    file := some (lit "client\n")
    inputs := [.event (CoreClient.challengeEvent CoreClient.loginChallenge.render),
      .event ⟨lit "DISCONNECTED", []⟩] }
  system := fun _ => 0
  capture := {
    segments := [relayedPost.header.render, lit "RelayState=x&SAML", lit "Response=aGk%3D"] }
  phase2 := {
    file := some (lit "client\n")
    inputs := [.event ⟨lit "CONNECTED", []⟩]
    dbus := DBusClient.setsUp }

/-- A challenge arrives in this round. -/
theorem provokes_relayedRound : relayedRound.phase1.Provokes where
  file := rfl
  accepted := rfl
  challenged := by decide
  notFailed := fun h => by
    obtain ⟨name, hname, -⟩ := failed_iff_firstVerdict.1 h
    have hnone : firstVerdict relayedRound.phase1.inputs = none := by decide
    cases hnone.symm.trans hname

namespace Cli

theorem doConnect_returns_iff_relayed :
    (∃ s', doConnect { clock := fun _ => ⟨2024, 5, 17, 9, 30, 0⟩, eof := lit "End of file" }
        relayedRound { client := { configPath := lit "vpn.ovpn", mode := .direct } } = .ok () s') ↔
      relayedRound.Succeeds :=
  doConnect_returns_iff rfl rfl relayedRound

theorem doConnect_posts_relayed :
    ∃ s' answer, doConnect { clock := fun _ => ⟨2024, 5, 17, 9, 30, 0⟩, eof := lit "End of file" }
        relayedRound { client := { configPath := lit "vpn.ovpn", mode := .direct } } = .ok () s' ∧
      given s'.client.trace = [probe, answer] ∧
      (receivePassword answer).map (Prod.map id Base64.decode) = some (lit "sid", lit "hi") ∧
      (lit "https://idp" ≠ [] →
        .cli (.system (xdgOpenCommand (fullUrl (lit "https://idp")))) ∈ s'.trace) :=
  doConnect_posts (m := CoreClient.loginChallenge) rfl rfl relayedPost provokes_relayedRound
    (by decide) rfl rfl rfl (by decide) ⟨rfl, by decide⟩

end Cli

end OpenLawsVpn
