import OpenLawsVpn.Gui.LogCallback

/-!
# The capture server of the GUI

`capture_saml_token` serves two handlers for the path `/`, which share a sender
that takes one token. A request carries a token when one of its three fields is
not empty.

The handler of POST requests skips empty fields, but sends what it has even when
there is no token. The handler of GET requests takes the first field that is
present, and sends it unless it is empty. So the token received is the first one
carried, at each moment, exactly if the requests up to it are plain
(`captures_iff`): no POST request is without a token, and no GET request has an
empty field before its token.

* `Params`, `Request`: the fields of a request, and whether it got to a handler;
* `handle_eq`: both handlers, by what they send;
* `received_foldl_handle`: the sender takes the first token that is sent;
* `captures_iff`: the criterion, after every prefix of the requests;
* `captures_empty`: an empty token, and a token that is passed over.
-/

namespace OpenLawsVpn

/-- `String::len`: the bytes of a text. -/
def byteLength (s : Text) : ℕ := s.foldr (fun c n => c.utf8Size + n) 0

namespace SamlServer

/-- The fields of a decoded form, as far as they are present. -/
structure Params where
  samlResponse : Option Text := none
  wresult : Option Text := none
  token : Option Text := none
  deriving DecidableEq, Repr

/-- `SamlForm`. -/
structure SamlForm where
  samlResponse : Text
  wresult : Text
  token : Text
  deriving DecidableEq, Repr

/-- The fields that are missing have the default value. -/
def SamlForm.ofParams (p : Params) : SamlForm where
  samlResponse := p.samlResponse.getD []
  wresult := p.wresult.getD []
  token := p.token.getD []

/-- A request for `/`. One that cannot be decoded is rejected before the handler. -/
inductive Request
  | get (params : Params)
  | post (params : Params)
  | rejected
  deriving DecidableEq, Repr

/-- The channel of the token: whether its sender is there to be taken, and what was
    received. -/
structure Channel where
  sender : Bool := true
  received : Option Text := none
  deriving DecidableEq, Repr

/-- The sender is taken, and sends the token. -/
def Channel.send (token : Text) (ch : Channel) : Channel :=
  if ch.sender then { sender := false, received := some token } else ch

-- `urlencoding::decode`, which fails when the decoded bytes are not UTF-8.
variable (decode : Text → Option Text)

/-- `normalize_base64`. -/
def normalizeBase64 (raw : Text) : Text :=
  let decoded := (decode raw).getD raw
  let replaced := decoded.map fun c => if c = ' ' then '+' else c
  replaced ++ List.replicate ((4 - byteLength replaced % 4) % 4) '='

/-- The handler of POST requests. -/
def handlePost (form : SamlForm) (ch : Channel) : Channel :=
  let raw := if form.samlResponse ≠ [] then form.samlResponse
    else if form.wresult ≠ [] then form.wresult
    else form.token
  ch.send (normalizeBase64 decode raw)

/-- The handler of GET requests, for identity providers that redirect. -/
def handleGet (params : Params) (ch : Channel) : Channel :=
  let raw := ((params.samlResponse.or params.wresult).or params.token).getD []
  if raw ≠ [] then ch.send (normalizeBase64 decode raw) else ch

/-- The handler of a request. -/
def handle (ch : Channel) : Request → Channel
  | .get params => handleGet decode params ch
  | .post params => handlePost decode (.ofParams params) ch
  | .rejected => ch

/-- `capture_saml_token`, after these requests: its result, or still waiting. -/
def captureSamlToken (bind : Except Text Unit) (requests : List Request) (timedOut : Bool) :
    Option (Except Text Text) :=
  match bind with
  | .error e => some (.error ("Cannot bind 127.0.0.1:35001: ".toList ++ e))
  | .ok () =>
    match (requests.foldl (handle decode) {}).received with
    | some token => some (.ok token)
    | none => if timedOut then some (.error "SAML login timed out".toList) else none

/-! ## Tokens -/

namespace Params

/-- The first value that is not empty. -/
def carried (p : Params) : Option Text :=
  [p.samlResponse, p.wresult, p.token].findSome? fun v => v.filter (· ≠ [])

/-- The first value that is present. -/
def present (p : Params) : Option Text := (p.samlResponse.or p.wresult).or p.token

end Params

namespace Request

/-- The token carried. -/
def carried : Request → Option Text
  | .get params => params.carried
  | .post params => params.carried
  | .rejected => none

/-- A POST request has a token; a GET request has none, or no empty field before it. -/
def Plain : Request → Prop
  | .get params => params.present = some [] → params.carried = none
  | .post params => params.carried.isSome
  | .rejected => True

instance : DecidablePred Plain
  | .get params => inferInstanceAs (Decidable (params.present = some [] → params.carried = none))
  | .post params => inferInstanceAs (Decidable (params.carried.isSome = true))
  | .rejected => inferInstanceAs (Decidable True)

/-- What the handler sends, if the sender is there. -/
def sent : Request → Option Text
  | .get params => params.present.filter (· ≠ [])
  | .post params => some (params.carried.getD [])
  | .rejected => none

/-- The handler of a plain request sends the token carried, if there is one. -/
theorem sent_eq_carried {r : Request} (h : r.Plain) : r.sent = r.carried := by
  cases r with
  | get params =>
    obtain ⟨a, b, c⟩ := params
    rcases a with _ | _ | _ <;> rcases b with _ | _ | _ <;> rcases c with _ | _ | _ <;>
      simp_all [Plain, sent, carried, Params.present, Params.carried]
  | post params =>
    obtain ⟨token, htoken⟩ := Option.isSome_iff_exists.1 (show params.carried.isSome from h)
    rw [sent, carried, htoken, Option.getD_some]
  | rejected => rfl

/-- That of any other request sends without a token, or has a token and does not
    send. -/
theorem isSome_sent_ne {r : Request} (h : ¬r.Plain) : r.sent.isSome ≠ r.carried.isSome := by
  cases r with
  | get params =>
    obtain ⟨hpresent, hcarried⟩ := Classical.not_imp.1 (show ¬(_ → _) from h)
    rw [sent, carried, hpresent, Option.isSome_iff_ne_none.2 hcarried]
    simp
  | post params =>
    have hnone : params.carried.isSome = false := Bool.eq_false_of_not_eq_true h
    rw [sent, carried, hnone]
    simp
  | rejected => exact absurd trivial h

end Request

/-- The requests are plain, up to the first one with a token. -/
def Plain : List Request → Prop
  | [] => True
  | r :: requests => r.Plain ∧ (r.carried.isSome ∨ Plain requests)

/-! ## Runs -/

variable {decode : Text → Option Text}

/-- A request that sends a token sends it in its normal form; another changes nothing. -/
theorem handle_eq (ch : Channel) (r : Request) :
    handle decode ch r = match r.sent with
      | some raw => ch.send (normalizeBase64 decode raw)
      | none => ch := by
  cases r with
  | get params =>
    rw [handle, handleGet, Request.sent, ← Params.present]
    cases params.present with
    | none => rfl
    | some raw => cases raw <;> rfl
  | post params =>
    obtain ⟨a, b, c⟩ := params
    rcases a with _ | _ | _ <;> rcases b with _ | _ | _ <;> rcases c with _ | _ | _ <;> rfl
  | rejected => rfl

/-- Once the sender is taken, nothing changes. -/
theorem foldl_handle_of_taken {ch : Channel} (h : ch.sender = false) (requests : List Request) :
    requests.foldl (handle decode) ch = ch := by
  induction requests with
  | nil => rfl
  | cons r requests ih =>
    have hstep : handle decode ch r = ch := by
      rw [handle_eq]
      cases r.sent <;> simp [Channel.send, h]
    rw [List.foldl_cons, hstep, ih]

/-- The token received is the first one sent. -/
theorem received_foldl_handle (requests : List Request) :
    (requests.foldl (handle decode) {}).received =
      (requests.findSome? Request.sent).map (normalizeBase64 decode) := by
  induction requests with
  | nil => rfl
  | cons r requests ih =>
    rw [List.foldl_cons, handle_eq, List.findSome?_cons]
    cases r.sent with
    | none => exact ih
    | some raw => rw [foldl_handle_of_taken rfl]; rfl

/-- Before the timeout, the capture results in the first token that is sent. -/
theorem captureSamlToken_eq (requests : List Request) :
    captureSamlToken decode (.ok ()) requests false =
      ((requests.findSome? Request.sent).map (normalizeBase64 decode)).map .ok := by
  rw [captureSamlToken, ← received_foldl_handle]
  cases (requests.foldl (handle decode) {}).received <;> rfl

/-- At each moment, the server returns the first token carried so far, or waits,
    exactly if the requests are plain. -/
theorem captures_iff (decode : Text → Option Text) (requests : List Request) :
    (∀ l, l <+: requests → captureSamlToken decode (.ok ()) l false =
      ((l.findSome? Request.carried).map (normalizeBase64 decode)).map .ok) ↔ Plain requests := by
  simp only [captureSamlToken_eq]
  induction requests with
  | nil => simp [Plain]
  | cons r requests ih =>
    rw [Plain, ← ih]
    constructor
    · intro h
      -- The first request alone shows that it is plain.
      have hr : r.Plain := by
        by_contra hnot
        have hsingle := congrArg Option.isSome (h [r] (List.cons_prefix_cons.2 ⟨rfl, List.nil_prefix⟩))
        simp only [List.findSome?_singleton, Option.isSome_map] at hsingle
        exact Request.isSome_sent_ne hnot hsingle
      refine ⟨hr, or_iff_not_imp_left.2 fun hnone l hl => ?_⟩
      have hcons := h (r :: l) (List.cons_prefix_cons.2 ⟨rfl, hl⟩)
      rw [List.findSome?_cons, List.findSome?_cons, Request.sent_eq_carried hr,
        Option.not_isSome_iff_eq_none.1 hnone] at hcons
      exact hcons
    · rintro ⟨hr, hrest⟩ l hl
      rcases List.prefix_cons_iff.1 hl with rfl | ⟨l, rfl, hl'⟩
      · rfl
      · rw [List.findSome?_cons, List.findSome?_cons, Request.sent_eq_carried hr]
        cases htoken : r.carried with
        | none => exact hrest.resolve_left (by simp [htoken]) l hl'
        | some token => rfl

/-- A POST request without a token ends the wait, with an empty token; a GET request
    with an empty `SAMLResponse` before its token does not end it. -/
theorem captures_empty :
    let saml : Params := { samlResponse := some "YQ==".toList }
    let empty : Params := { samlResponse := some [], wresult := some "YQ==".toList }
    ([.post {}, .post saml] : List Request).findSome? Request.carried = some "YQ==".toList ∧
      ([.get empty] : List Request).findSome? Request.carried = some "YQ==".toList ∧
      ∀ decode : Text → Option Text, decode [] = some [] →
        captureSamlToken decode (.ok ()) [.post {}, .post saml] false = some (.ok []) ∧
        captureSamlToken decode (.ok ()) [.get empty] false = none := by
  refine ⟨by decide, by decide, fun decode hdecode => ⟨?_, rfl⟩⟩
  rw [captureSamlToken_eq]
  simp [Request.sent, Params.carried, normalizeBase64, hdecode, byteLength]

end SamlServer

end OpenLawsVpn
