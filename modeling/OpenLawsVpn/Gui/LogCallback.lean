import OpenLawsVpn.Lib.Utf8
import OpenLawsVpn.Text

/-!
# The log callback of the GUI

The service of the GUI learns how the client is doing from its log: each line is
forwarded, and changes the state of the GUI when it has one of a few phrases in
it, in any letter case (`stateChange`). The phrases have an order: those of a
connection come first.

A line is made of the log prefix, fixed words, and a text from elsewhere. The
prefix has no phrase in it, and no phrase starts in it and ends in what follows,
so the phrases in a line are those in its text (`says_prefix_iff`, `says_text_iff`).

* `stateChange`: the change that a text causes, by the order of the phrases;
* `lowered_ascii_append`, `lowered_append_cons`: lower case, in parts;
* `not_infix_of_foreign`: a text of other symbols has no phrase in it;
* `says_line_iff`: the phrases of a line of the D-Bus client.
-/

namespace OpenLawsVpn

/-- A Rust `String`: its characters. -/
abbrev Text := List Char

/-- `CStr::to_string_lossy`. -/
def toStringLossy (s : Bytes) : Text := Utf8.decode .start s

/-- The letters in lower case. Two characters that are not in ASCII have one that
    is in the lower case; what other characters become has no effect here, as it is
    not in ASCII. -/
def lowerChar (c : Char) : Text :=
  if 'A' ≤ c ∧ c ≤ 'Z' then [Char.ofNat (c.toNat + 32)]
  else if c = '\u212A' then ['k']
  else if c = '\u0130' then ['i', '\u0307']
  else [c]

/-- `str::to_lowercase`. -/
def toLowercase (s : Text) : Text := s.flatMap lowerChar

/-- `char::is_whitespace`. -/
def isWhitespace (c : Char) : Bool :=
  c = ' ' || ('\u0009' ≤ c && c ≤ '\u000D') || c = '\u0085' || c = '\u00A0' || c = '\u1680' ||
    ('\u2000' ≤ c && c ≤ '\u200A') || c = '\u2028' || c = '\u2029' || c = '\u202F' ||
    c = '\u205F' || c = '\u3000'

/-- `str::trim_end`. -/
def trimEnd (s : Text) : Text := s.rdropWhile isWhitespace

/-- `str::trim`. -/
def trim (s : Text) : Text := trimEnd (s.dropWhile isWhitespace)

/-- The state of the service, as the GUI is told. -/
inductive VpnState
  | idle
  | connecting
  | waitingSaml (samlUrl : Text)
  | connected (serverIp assignedIp : Text)
  | disconnecting
  | needReauth
  | error (message : Text)
  deriving DecidableEq, Repr

/-- An event for the GUI: a change of the state, or a line for the log. -/
inductive VpnEvent
  | stateChanged (state : VpnState)
  | logLine (line : Text)
  deriving DecidableEq, Repr

/-! ## Phrases -/

/-- A line with one of these reports a connection. -/
def connectedPhrases : List Text := ["connected to".toList, "tunnel is up".toList]

/-- A line with one of these reports an error. -/
def errorPhrases : List Text :=
  ["connectphase2 error".toList, "auth_failed".toList, "authentication failed".toList]

/-- A line with one of these asks to log in again. -/
def reauthPhrases : List Text := ["need_creds".toList, "session expired".toList]

/-- A line with one of these reports the end of the connection. -/
def idlePhrases : List Text := ["disconnected".toList, "tunnel is down".toList]

/-- The phrases of all four kinds. -/
def allPhrases : List Text := connectedPhrases ++ errorPhrases ++ reauthPhrases ++ idlePhrases

/-- A text has one of the phrases in it. -/
def Says (phrases : List Text) (lower : Text) : Prop := ∃ p ∈ phrases, p <:+: lower

instance (phrases : List Text) (lower : Text) : Decidable (Says phrases lower) :=
  inferInstanceAs (Decidable (∃ p ∈ phrases, p <:+: lower))

/-- The detail of an error: what is after `ERROR:`, or the whole line. -/
def errorDetail (msg : Text) : Text :=
  match Search.find "ERROR:".toList msg with
  | some i => trim (msg.drop (i + 6))
  | none => trim msg

/-- The change of the state by a line. -/
def stateChange (msg : Text) : Option VpnState :=
  let lower := toLowercase msg
  -- A phrase of a connection counts, whatever else the line says.
  if Says connectedPhrases lower then some (.connected [] [])
  else if Says errorPhrases lower then some (.error (errorDetail msg))
  else if Says reauthPhrases lower then some .needReauth
  else if Says idlePhrases lower then some .idle
  else none

/-- `log_callback`: the events sent for a line. -/
def logCallback (message : Bytes) : List VpnEvent :=
  let msg := toStringLossy (cStr message)
  .logLine (trimEnd msg) :: (stateChange msg).toList.map .stateChanged

/-- The last change of the state among the events. -/
def lastState (events : List VpnEvent) : Option VpnState :=
  (events.filterMap fun
    | .stateChanged state => some state
    | .logLine _ => none).getLast?

/-! ## Lower case -/

/-- A text as the phrases are looked for in it. -/
def lowered (s : Bytes) : Text := toLowercase (toStringLossy s)

/-- An ASCII byte as a text in lower case. -/
def lowerByte (b : UInt8) : Text := lowerChar (Char.ofNat b.toNat)

/-- An ASCII text in front of any other is put in lower case by itself. -/
theorem lowered_ascii_append {a : Bytes} (ha : ∀ b ∈ a, b < 0x80) (s : Bytes) :
    lowered (a ++ s) = a.flatMap lowerByte ++ lowered s := by
  rw [lowered, toStringLossy, Utf8.decode_ascii_append ha, toLowercase, List.flatMap_append,
    List.flatMap_map]
  rfl

theorem lowered_append_cons (s : Bytes) {b : UInt8} (hb : b < 0x80) (t : Bytes) :
    lowered (s ++ b :: t) = lowered s ++ (lowerByte b ++ lowered t) := by
  rw [lowered, toStringLossy, Utf8.decode_append_ascii _ _ hb, toLowercase, List.flatMap_append,
    List.flatMap_cons]
  rfl

/-- An ASCII text is put in lower case byte by byte. -/
theorem lowered_ascii {a : Bytes} (ha : ∀ b ∈ a, b < 0x80) : lowered a = a.flatMap lowerByte := by
  have h := lowered_ascii_append ha []
  rwa [List.append_nil, show lowered [] = [] from rfl, List.append_nil] at h

/-! ## Phrases in a line -/

/-- A phrase has a character which none of the bytes stands for. -/
def Foreign (chars : Bytes) (p : Text) : Prop := ∃ x ∈ p, ∀ b ∈ chars, x ∉ lowerByte b

instance (chars : Bytes) (p : Text) : Decidable (Foreign chars p) :=
  List.decidableBEx (fun x => ∀ b ∈ chars, x ∉ lowerByte b) p

/-- A text of these bytes does not have the phrase. -/
theorem not_infix_of_foreign {chars a : Bytes} {p : Text} (hchars : ∀ b ∈ chars, b < 0x80)
    (ha : ∀ b ∈ a, b ∈ chars) (hp : Foreign chars p) : ¬p <:+: lowered a := by
  obtain ⟨x, hx, hforeign⟩ := hp
  intro hinf
  rw [lowered_ascii fun b hb => hchars b (ha b hb)] at hinf
  obtain ⟨b, hb, hxb⟩ := List.mem_flatMap.1 (hinf.subset hx)
  exact hforeign b (ha b hb) hxb

theorem mem_of_isDigit {b : UInt8} (h : isDigit b) : b ∈ lit "0123456789" := by
  have hall : ∀ n < 58, 48 ≤ n → UInt8.ofNat n ∈ lit "0123456789" := by decide
  simp only [isDigit, Bool.and_eq_true, decide_eq_true_eq, UInt8.le_iff_toNat_le] at h
  rw [← UInt8.ofNat_toNat (x := b)]
  exact hall b.toNat (Nat.lt_succ_of_le h.2) h.1

/-- The bytes of a log prefix, up to its last one. -/
def prefixBytes : Bytes := lit "[openlawsvpn 0123456789-:"

/-- The prefix of a line is made of few bytes. -/
theorem mem_prefixBytes {t : Stamp} {b : UInt8} (hb : b ∈ lit "[openlawsvpn " ++ t.format) :
    b ∈ prefixBytes := by
  have hsub : ∀ l : Bytes, (∀ c ∈ l, c ∈ prefixBytes) → b ∈ l → b ∈ prefixBytes := fun l hl hb => hl b hb
  rcases List.mem_append.1 hb with hb | hb
  · exact hsub _ (by decide) hb
  · rcases mem_format hb with hb | hb
    · exact hsub _ (by decide) (mem_of_isDigit hb)
    · exact hsub _ (by decide) hb

/-- No phrase is found in the log prefix, or starts there. -/
theorem infix_prefix_iff {p : Text} (hp : p ∈ allPhrases) (t : Stamp) (s : Bytes) :
    p <:+: lowered (getLogPrefix t ++ s) ↔ p <:+: lowered s := by
  have hsep : ∀ p ∈ allPhrases, ']' ∉ p := by decide
  have hforeign : ∀ p ∈ allPhrases, Foreign prefixBytes p := by decide
  have hnot : ¬p <:+: lowered (lit "[openlawsvpn " ++ t.format) :=
    not_infix_of_foreign (by decide) (fun b => mem_prefixBytes) (hforeign p hp)
  -- The prefix ends with a bracket, which no phrase has.
  rw [getLogPrefix, show lit "[openlawsvpn " ++ t.format ++ lit "]" ++ s =
    (lit "[openlawsvpn " ++ t.format) ++ 93 :: s by simp [show lit "]" = [93] from rfl],
    lowered_append_cons _ (by decide), show lowerByte 93 = [']'] from rfl, List.singleton_append,
    Search.infix_append_cons_iff (hsep p hp)]
  simp [hnot]

/-- After words without the phrase, a colon or a parenthesis, and a blank, the
    phrase is found exactly in the text. -/
theorem infix_text_iff {p : Text} (hp : p ∈ allPhrases) {head : Bytes} {sep : UInt8}
    (hsep : sep = 58 ∨ sep = 41) (hhead : ¬p <:+: lowered head) (m : Bytes) :
    p <:+: lowered (head ++ sep :: 32 :: m) ↔ p <:+: lowered m := by
  have hne : ∀ p ∈ allPhrases, p.head? ≠ some ' ' ∧ p ≠ [] := by decide
  have hseps : ∀ p ∈ allPhrases, ':' ∉ p ∧ ')' ∉ p := by decide
  obtain ⟨hcolon, hparen⟩ := hseps p hp
  obtain ⟨c, hc, hcp⟩ : ∃ c, lowerByte sep = [c] ∧ c ∉ p := by
    rcases hsep with rfl | rfl
    · exact ⟨':', rfl, hcolon⟩
    · exact ⟨')', rfl, hparen⟩
  have hsep' : sep < 0x80 := by rcases hsep with rfl | rfl <;> decide
  rw [lowered_append_cons _ hsep', hc, List.singleton_append, Search.infix_append_cons_iff hcp,
    or_iff_right hhead, show 32 :: m = [] ++ 32 :: m from rfl, lowered_append_cons _ (by decide),
    show lowerByte 32 = [' '] from rfl, show lowered [] = [] from rfl, List.nil_append,
    List.singleton_append, List.infix_cons_iff]
  obtain ⟨hhead', hnil⟩ := hne p hp
  refine or_iff_right fun h => ?_
  obtain ⟨c, p', rfl⟩ := List.exists_cons_of_ne_nil hnil
  exact hhead' (by rw [(List.cons_prefix_cons.1 h).1]; rfl)

/-- The end of a line is of no account. -/
theorem infix_line_iff {p : Text} (hp : p ∈ allPhrases) (m : Bytes) :
    p <:+: lowered (m ++ [10]) ↔ p <:+: lowered m := by
  have hline : ∀ p ∈ allPhrases, '\n' ∉ p ∧ p ≠ [] := by decide
  obtain ⟨hline, hnil⟩ := hline p hp
  rw [lowered_append_cons m (by decide), show lowerByte 10 = ['\n'] from rfl,
    show lowered [] = [] from rfl, List.singleton_append, Search.infix_append_cons_iff hline,
    List.infix_nil, or_iff_left hnil]

/-- The phrases of a text after such words are those of the text. -/
theorem says_text_iff {phrases : List Text} (hsub : ∀ p ∈ phrases, p ∈ allPhrases)
    {head : Bytes} {sep : UInt8} (hsep : sep = 58 ∨ sep = 41)
    (hhead : ∀ p ∈ phrases, ¬p <:+: lowered head) (m : Bytes) :
    Says phrases (lowered (head ++ sep :: 32 :: m)) ↔ Says phrases (lowered m) :=
  exists_congr fun p => and_congr_right fun hp =>
    infix_text_iff (hsub p hp) hsep (hhead p hp) m

/-- The phrases of a line are those of its text. -/
theorem says_line_iff {phrases : List Text} (hsub : ∀ p ∈ phrases, p ∈ allPhrases) (t : Stamp)
    {head : Bytes} {sep : UInt8} (hsep : sep = 58 ∨ sep = 41)
    (hhead : ∀ p ∈ phrases, ¬p <:+: lowered head) (m : Bytes) :
    Says phrases (lowered (getLogPrefix t ++ (head ++ sep :: 32 :: (m ++ [10])))) ↔
      Says phrases (lowered m) :=
  exists_congr fun p => and_congr_right fun hp =>
    (infix_prefix_iff (hsub p hp) t _).trans
      ((infix_text_iff (hsub p hp) hsep (hhead p hp) _).trans (infix_line_iff (hsub p hp) m))

/-- The phrases of a line of fixed words are those of the words. -/
theorem says_prefix_iff {phrases : List Text} (hsub : ∀ p ∈ phrases, p ∈ allPhrases) (t : Stamp)
    (s : Bytes) :
    Says phrases (lowered (getLogPrefix t ++ s)) ↔ Says phrases (lowered s) :=
  exists_congr fun p => and_congr_right fun hp => infix_prefix_iff (hsub p hp) t s

/-! ## Changes of the state -/

/-- A line is taken for a connection exactly if it says one of the connected phrases. -/
theorem stateChange_eq_connected_iff {s : Bytes} :
    stateChange (toStringLossy s) = some (.connected [] []) ↔
      Says connectedPhrases (lowered s) := by
  rw [stateChange]
  split_ifs with h <;> simp_all [lowered]

/-- A line is passed over exactly if it says none of the phrases. -/
theorem stateChange_eq_none_iff {s : Bytes} :
    stateChange (toStringLossy s) = none ↔ ¬Says allPhrases (lowered s) := by
  have hall : Says allPhrases (lowered s) ↔ Says connectedPhrases (lowered s) ∨
      Says errorPhrases (lowered s) ∨ Says reauthPhrases (lowered s) ∨
        Says idlePhrases (lowered s) := by
    simp only [Says, allPhrases, List.mem_append, or_and_right, exists_or, or_assoc]
  rw [hall, stateChange]
  split_ifs with h₁ h₂ h₃ h₄ <;> simp_all [lowered]

end OpenLawsVpn
