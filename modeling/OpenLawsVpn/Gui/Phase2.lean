import OpenLawsVpn.Client
import OpenLawsVpn.DBus.Received
import OpenLawsVpn.Gui.LogCallback

/-!
# The result of Phase 2, as the GUI sees it

Phase 2 has no result for the GUI, which goes by the lines of its log: the lines
of the D-Bus client, and one for an exception (`connectPhase2Lines`).

* When Phase 2 throws, the last line is that of the exception. It is shown as an
  error exactly if the message that the exception quotes (`quoted`) has no phrase
  of a connection in it.
* When it returns, the line `Tunnel is up.` went to the standard output. A status
  with the numbers of a connection and another message goes unnoticed; so the
  state is *Connected* exactly if the last of the messages received that has a
  phrase in it has one of a connection (`Hears`).

Both together are `OpenVPNClient.agrees_iff`.

* `heardAs`: how a text is heard, with the lemmas on each line of the D-Bus client;
* `DBusClient.Shows`: the state shown follows what was received, all along an attempt;
* `says_exception_iff`: the phrases of an exception are those of its message;
* `unnoticed_of_succeeds`: an attempt that returns without a change.
-/

namespace OpenLawsVpn

open Wp

/-- What a message is taken for by the log callback: for a connection, for
    something else, or for nothing. -/
def heardAs (m : Bytes) : Option Bool :=
  if Says connectedPhrases (lowered m) then some true
  else if Says allPhrases (lowered m) then some false
  else none

/-- The status of a session that ends, when it was connected. -/
def Status.Drops (st : Status) : Prop :=
  st.major = 2 ∧ ¬(st.minor = 101 ∨ DBusClient.SaysConnected st.message) ∧
    (st.minor = 103 ∨ st.minor = 110)

instance (st : Status) : Decidable st.Drops :=
  inferInstanceAs (Decidable (_ ∧ _ ∧ _))

namespace DBusAction

/-- What is received is taken for, when the client was `connected` or not. A poll
    of the status leaves no line. -/
def heard (connected : Bool) : DBusAction → Option Bool
  | .signal s =>
    match s.status, s.logMessage with
    | some st, _ => if connected ∧ st.Drops then some false else heardAs st.message.bytes
    | none, some m => heardAs m.bytes
    | none, none => none
  | .call (.getConnectedTo _ (some host)) => if host.bytes = [] then none else some true
  | _ => none

/-- A line of the log. -/
def line? : DBusAction → Option Bytes
  | .log line => some line
  | _ => none

end DBusAction

/-- What was last heard in what was received. -/
def lastHeard (trace : List DBusAction) : Bool × Option Bool :=
  DBusClient.lastRead DBusAction.heard trace

/-- The events of the log callback for the lines of a trace. -/
def DBusClient.events (c : DBusClient) : List VpnEvent :=
  (c.trace.filterMap DBusAction.line?).flatMap logCallback

/-! ## Lines -/

/-- The last change of a longer list is that of its second half, if it has one. -/
theorem lastState_append (events events' : List VpnEvent) :
    lastState (events ++ events') = (lastState events').or (lastState events) := by
  rw [lastState, List.filterMap_append, List.getLast?_append]
  rfl

/-- The change of a line is the one that its text causes. -/
theorem lastState_logCallback (line : Bytes) :
    lastState (logCallback line) = stateChange (toStringLossy (cStr line)) := by
  rw [logCallback]
  cases stateChange (toStringLossy (cStr line)) <;> rfl

/-- The screen shows a connection in this state. -/
def isConnected (state : VpnState) : Bool := state = .connected [] []

/-- A line is heard as it changes the state. -/
theorem isConnected_stateChange (s : Bytes) :
    (stateChange (toStringLossy s)).map isConnected = heardAs s := by
  have hall := stateChange_eq_none_iff (s := s)
  rw [heardAs]
  by_cases hconnected : Says connectedPhrases (lowered s)
  · rw [if_pos hconnected, stateChange_eq_connected_iff.2 hconnected]
    rfl
  · rw [if_neg hconnected]
    cases hchange : stateChange (toStringLossy s) with
    | none => rw [if_neg (hall.1 hchange)]; rfl
    | some state =>
      have hne : state ≠ .connected [] [] := by
        rintro rfl
        exact hconnected (stateChange_eq_connected_iff.1 hchange)
      have hsays : Says allPhrases (lowered s) := by
        by_contra hnot
        rw [hall.2 hnot] at hchange
        cases hchange
      rw [if_pos hsays, Option.map_some, isConnected, decide_eq_false hne]

theorem nul_notMem_getLogPrefix (t : Stamp) : 0 ∉ getLogPrefix t := by
  intro h
  rcases List.mem_append.1 h with h | h
  · exact absurd (mem_prefixBytes h) (by decide)
  · exact absurd h (by decide)

/-- A line of words, a separator and a message is taken for what the message is. -/
theorem heardAs_line (t : Stamp) {head : Bytes} {sep : UInt8} (hsep : sep = 58 ∨ sep = 41)
    (hhead : ∀ p ∈ allPhrases, ¬p <:+: lowered head) (hnul : 0 ∉ head) {m : Bytes} (hm : 0 ∉ m) :
    heardAs (cStr (getLogPrefix t ++ (head ++ sep :: 32 :: (m ++ [10])))) = heardAs m := by
  have hsub : ∀ p ∈ connectedPhrases, p ∈ allPhrases := by decide
  have hsep' : sep ≠ 0 := by rcases hsep with rfl | rfl <;> decide
  have hline : 0 ∉ getLogPrefix t ++ (head ++ sep :: 32 :: (m ++ [10])) := by
    simp [nul_notMem_getLogPrefix t, hnul, hm, hsep'.symm]
  simp only [heardAs, cStr_eq_self hline,
    says_line_iff hsub t hsep (fun p hp => hhead p (hsub p hp)) m,
    says_line_iff (fun _ hp => hp) t hsep hhead m]

/-- A line of fixed words is taken for what the words are. -/
theorem heardAs_words (t : Stamp) {words : Bytes} (hnul : 0 ∉ words) :
    heardAs (cStr (getLogPrefix t ++ words)) = heardAs words := by
  have hsub : ∀ p ∈ connectedPhrases, p ∈ allPhrases := by decide
  have hline : 0 ∉ getLogPrefix t ++ words := by simp [nul_notMem_getLogPrefix t, hnul]
  simp only [heardAs, cStr_eq_self hline, says_prefix_iff hsub t words,
    says_prefix_iff (fun _ hp => hp) t words]

/-- The text around a log message does not change how it is heard. -/
theorem heardAs_logLine (t : Stamp) (m : CString) :
    heardAs (cStr (getLogPrefix t ++ (lit " D-Bus LOG: " ++ m.bytes ++ lit "\n"))) =
      heardAs m.bytes := by
  have hhead : ∀ p ∈ allPhrases, ¬p <:+: lowered (lit " D-Bus LOG") := by decide
  rw [← heardAs_line t (.inl rfl) hhead (by decide) m.nul_notMem]
  congr 3

/-- The bytes before the message in the line of a status. -/
def statusBytes : Bytes := lit " D-Bus StatusChange: (0123456789,"

/-- The text around the message of a status change does not change how it is heard. -/
theorem heardAs_statusLine (t : Stamp) (st : Status) :
    heardAs (cStr (getLogPrefix t ++ (lit " D-Bus StatusChange: " ++ DBusClient.statusText st))) =
      heardAs st.message.bytes := by
  set head := lit " D-Bus StatusChange: (" ++ decimal st.major.toNat ++ lit ", " ++
    decimal st.minor.toNat with hhead
  have hmem : ∀ b ∈ head, b ∈ statusBytes := by
    intro b hb
    have hsub : ∀ l : Bytes, (∀ c ∈ l, c ∈ statusBytes) → b ∈ l → b ∈ statusBytes :=
      fun l hl hb => hl b hb
    simp only [hhead, List.mem_append] at hb
    rcases hb with ((hb | hb) | hb) | hb
    · exact hsub _ (by decide) hb
    · exact hsub _ (by decide) (mem_of_isDigit (isDigit_of_mem_decimal hb))
    · exact hsub _ (by decide) hb
    · exact hsub _ (by decide) (mem_of_isDigit (isDigit_of_mem_decimal hb))
  -- Each phrase has a byte that the text around the message has not.
  have hforeign : ∀ p ∈ allPhrases, Foreign statusBytes p := by decide
  rw [← heardAs_line t (.inr rfl)
    (fun p hp => not_infix_of_foreign (by decide) hmem (hforeign p hp))
    (fun h => absurd (hmem 0 h) (by decide)) st.message.nul_notMem]
  congr 3
  rw [DBusClient.statusText, hhead, show lit ") " = [41, 32] from rfl,
    show lit "\n" = [10] from rfl,
    show lit " D-Bus StatusChange: (" = lit " D-Bus StatusChange: " ++ lit "(" from rfl]
  simp

/-- The line of a polled server is taken for a connection. -/
theorem heardAs_serverLine (t : Stamp) (host : CString) :
    heardAs (cStr (getLogPrefix t ++ (lit " Connected to " ++ host.bytes ++
      lit " (polled connected_to)\n"))) = some true := by
  have hwords : 0 ∉ lit " Connected to " ++ host.bytes ++ lit " (polled connected_to)\n" := by
    simp only [List.mem_append, not_or]
    exact ⟨⟨by decide, host.nul_notMem⟩, by decide⟩
  rw [heardAs_words t hwords, heardAs, if_pos]
  refine ⟨"connected to".toList, by decide, ?_⟩
  rw [List.append_assoc, lowered_ascii_append (by decide)]
  exact List.IsInfix.trans (by decide) (List.prefix_append _ _).isInfix

namespace DBusClient

variable {clock : ℕ → Stamp} {c : DBusClient}

/-! ## The D-Bus client -/

/-- What the last change of the state by the lines of the client is. -/
def shown (c : DBusClient) : Option Bool := (lastState c.events).map isConnected

/-- An action that writes no line shows nothing. -/
theorem shown_push_of_line {a : DBusAction} (h : a.line? = none) : (c.push a).shown = c.shown := by
  rw [shown, events, push_trace, List.filterMap_append, List.filterMap_cons_none h]
  simp [shown, events]

/-- After a line, the screen shows what the line is heard as, if it is heard. -/
theorem shown_emitLog (text : Bytes) :
    (c.emitLog clock text).shown =
      (heardAs (cStr (getLogPrefix (clock c.trace.length) ++ text))).or c.shown := by
  set line := getLogPrefix (clock c.trace.length) ++ text with hline
  have hlines : [DBusAction.log line].filterMap DBusAction.line? = [line] := rfl
  rw [shown, events, emitLog, ← hline, push_trace, List.filterMap_append, List.flatMap_append,
    lastState_append, hlines, List.flatMap_singleton, lastState_logCallback,
    ← isConnected_stateChange, shown, events]
  cases stateChange (toStringLossy (cStr line)) <;> rfl

/-- The flag and the state shown are those listened to. -/
def Shows (c : DBusClient) : Prop := c.logLevel = 1 ∧ lastHeard c.trace = (c.connected, c.shown)

/-- At log level 1 the lines of level 1 are written. -/
theorem logAt_one (h : c.logLevel = 1) (text : Bytes) : c.logAt 1 clock text = c.emitLog clock text := by
  rw [logAt, h, if_pos le_rfl]

/-! ### Signals -/

/-- A status that drops the connection is heard as such, if there was one. -/
theorem shown_onStatus (st : Status) :
    (onStatus clock st c).shown = if c.connected ∧ st.Drops then some false else c.shown := by
  have hdropped : (c.emitLog clock (lit " VPN Disconnected (D-Bus StatusChange)\n")).shown =
      some false := by
    rw [shown_emitLog, heardAs_words _ (by decide)]
    rfl
  unfold onStatus Status.Drops
  split_ifs <;> first | exact hdropped | rfl | simp_all

/-- A signal shows what it is heard as. -/
theorem shown_onStatusChange (h : c.logLevel = 1) (s : Signal) :
    (onStatusChange clock s c).shown = ((DBusAction.signal s).heard c.connected).or c.shown := by
  rw [onStatusChange_eq, DBusAction.heard]
  cases hst : s.status with
  | some st =>
    dsimp only
    -- The line of the status comes first, then one for the end of a connection.
    rw [logAt_one h, shown_onStatus, shown_emitLog, heardAs_statusLine,
      show (c.emitLog clock (lit " D-Bus StatusChange: " ++ statusText st)).connected =
        c.connected from rfl]
    split_ifs <;> rfl
  | none =>
    cases hlog : s.logMessage with
    | some m =>
      have hshown : ∀ c : DBusClient, (onLog m c).shown = c.shown := fun c => by
        rw [onLog]
        split_ifs <;> rfl
      dsimp only
      rw [logAt_one h, hshown, shown_emitLog, heardAs_logLine]
    | none => rfl

/-! ### Polled properties -/

/-- The line of a polled status is of a higher level. -/
theorem shown_onPolledStatus (h : c.logLevel = 1) (reply : Option Status) :
    (onPolledStatus clock reply c).2.shown = c.shown := by
  cases reply with
  | none => rfl
  | some st =>
    have hlog : c.logAt 2 clock (lit " Polled Status: " ++ statusText st) = c := by
      rw [logAt, h, if_neg (by decide)]
    unfold onPolledStatus
    dsimp only
    rw [hlog]
    split_ifs <;> rfl

/-- The answer of a poll shows what it is heard as. -/
theorem shown_onPolledConnectedTo (h : c.logLevel = 1) (session : Bytes) (reply : Option CString) :
    (onPolledConnectedTo clock reply c).2.shown =
      ((DBusAction.call (.getConnectedTo session reply)).heard c.connected).or c.shown := by
  cases reply with
  | none => rfl
  | some host =>
    have hset : ∀ c : DBusClient, { c with connected := true }.shown = c.shown := fun _ => rfl
    rw [onPolledConnectedTo, DBusAction.heard]
    dsimp only
    split_ifs
    · rfl
    · rw [hset, logAt_one h, shown_emitLog, heardAs_serverLine]

/-! ### Attempts -/

/-- The state shown is that of what was last heard. -/
theorem tells_shown (env : Environment) :
    Tells env (·.logLevel = 1) DBusAction.heard shown where
  kept := .of_push (fun _ _ h => h) (fun _ _ h => h) (fun _ _ h => h) (fun _ h => h) fun _ _ h => h
  silent connected a ha := by
    cases a with
    | signal s => exact ha.elim
    | call k => cases k <;> first | exact ha.elim | rfl
    | _ => rfl
  stdout _ _ := shown_push_of_line rfl
  call _ _ _ := shown_push_of_line rfl
  timedOut _ := shown_push_of_line rfl
  configPath _ _ := rfl
  sessionPath _ _ := rfl
  announcement c text htext _ := by
    have hwords : ∀ text ∈ announcements, 0 ∉ text ∧ heardAs text = none := by decide
    rw [shown_emitLog, heardAs_words _ (hwords text htext).1, (hwords text htext).2]
    rfl
  signal c s h := by
    rw [shown_onStatusChange (show (c.push (.signal s)).logLevel = 1 from h), shown_push_of_line rfl]
    rfl
  polledStatus c session reply h := by
    rw [shown_onPolledStatus (show (c.push _).logLevel = 1 from h), shown_push_of_line rfl]
    rfl
  polledConnectedTo c session reply h := by
    rw [shown_onPolledConnectedTo (show (c.push _).logLevel = 1 from h) session reply,
      shown_push_of_line rfl]
    rfl

/-- The state shown is that of what was listened to, all along. -/
theorem invariant_shows (env : Environment) : Invariant env Shows := (tells_shown env).invariant

end DBusClient

/-! ## Exceptions -/

/-- The line that `openvpn_client_connect_phase2` leaves for an exception. -/
def errorLine (now : Stamp) (what : Bytes) : Bytes :=
  getLogPrefix now ++ lit " ConnectPhase2 ERROR: " ++ cStr what ++ lit "\n"

/-- The blanks around a message are cut off. -/
theorem trim_line (t : Text) : trim (' ' :: (t ++ ['\n'])) = trim t := by
  have hblank : isWhitespace ' ' = true := by decide
  have hline : isWhitespace '\n' = true := by decide
  rw [trim, trim, List.dropWhile_cons_of_pos hblank, List.dropWhile_append]
  split_ifs with h
  · rw [List.isEmpty_iff.1 h, List.dropWhile_cons_of_pos hline]
    rfl
  · exact List.rdropWhile_concat_pos _ _ _ hline

/-- The bytes before `ERROR:` in the line of an exception. -/
def errorBytes : Bytes := prefixBytes ++ lit "] ConnectPhase2 "

/-- The line has no `E` before its `ERROR:`. -/
theorem toStringLossy_errorLine (now : Stamp) (what : Bytes) :
    ∃ chars : Text, 'E' ∉ chars ∧ toStringLossy (errorLine now what) =
      chars ++ ("ERROR:".toList ++ ' ' :: (toStringLossy (cStr what) ++ ['\n'])) := by
  set head := getLogPrefix now ++ lit " ConnectPhase2 " with hhead
  -- What stands before has digits, blanks and the words of the library.
  have hmem : ∀ b ∈ head, b ∈ errorBytes := by
    intro b hb
    have hsub : ∀ l : Bytes, (∀ c ∈ l, c ∈ errorBytes) → b ∈ l → b ∈ errorBytes :=
      fun l hl hb => hl b hb
    rw [hhead, getLogPrefix, List.mem_append, List.mem_append] at hb
    rcases hb with (hb | hb) | hb
    · exact List.mem_append_left _ (mem_prefixBytes hb)
    · exact hsub _ (by decide) hb
    · exact hsub _ (by decide) hb
  have hbytes : ∀ b ∈ errorBytes, b < 0x80 ∧ Char.ofNat b.toNat ≠ 'E' := by decide
  refine ⟨head.map fun b => Char.ofNat b.toNat, fun h => ?_, ?_⟩
  · obtain ⟨b, hb, hE⟩ := List.mem_map.1 h
    exact (hbytes b (hmem b hb)).2 hE
  · have hline : errorLine now what = head ++ (lit "ERROR: " ++ (cStr what ++ 10 :: [])) := by
      rw [errorLine, hhead,
        show lit " ConnectPhase2 ERROR: " = lit " ConnectPhase2 " ++ lit "ERROR: " from rfl,
        show lit "\n" = [10] from rfl]
      simp only [List.append_assoc]
    rw [hline, toStringLossy, Utf8.decode_ascii_append fun b hb => (hbytes b (hmem b hb)).1,
      Utf8.decode_ascii_append (by decide), Utf8.decode_append_ascii _ _ (by decide)]
    rfl

/-- What follows `ERROR:` in the line is the text. -/
theorem errorDetail_errorLine (now : Stamp) (what : Bytes) :
    errorDetail (toStringLossy (errorLine now what)) = trim (toStringLossy (cStr what)) := by
  obtain ⟨chars, hE, htext⟩ := toStringLossy_errorLine now what
  have hfind : Search.find "ERROR:".toList (toStringLossy (errorLine now what)) =
      some chars.length := by
    rw [htext, Search.find_skip, Search.find_of_prefix (List.prefix_append _ _), Option.map_some,
      Nat.zero_add]
    intro s hs hne hp
    obtain ⟨c, s, rfl⟩ := List.exists_cons_of_ne_nil hne
    have hc : 'E' = c := (List.cons_prefix_cons.1 hp).1
    rw [hc] at hE
    exact hE (hs.subset List.mem_cons_self)
  rw [errorDetail, hfind]
  dsimp only
  rw [htext, ← List.drop_drop, List.drop_left]
  exact trim_line _

/-- The change by the line: it is an error, unless the text has a phrase of a
    connection in it. -/
theorem stateChange_errorLine (now : Stamp) (what : Bytes) :
    stateChange (toStringLossy (cStr (errorLine now what))) =
      if Says connectedPhrases (lowered (cStr what)) then some (.connected [] [])
      else some (.error (trim (toStringLossy (cStr what)))) := by
  have hline : errorLine now what =
      getLogPrefix now ++ (lit " ConnectPhase2 ERROR" ++ 58 :: 32 :: (cStr what ++ [10])) := by
    rw [errorLine, show lit " ConnectPhase2 ERROR: " = lit " ConnectPhase2 ERROR" ++ [58, 32] from rfl,
      show lit "\n" = [10] from rfl]
    simp
  have hnul : 0 ∉ errorLine now what := by
    have hwords : 0 ∉ lit " ConnectPhase2 ERROR" := by decide
    simp [hline, nul_notMem_getLogPrefix now, nul_notMem_cStr what, hwords]
  have hconnected : Says connectedPhrases (lowered (errorLine now what)) ↔
      Says connectedPhrases (lowered (cStr what)) := by
    rw [hline]
    exact says_line_iff (by decide) now (.inl rfl) (by decide) (cStr what)
  -- Whatever the text is, the line has the phrase of an error.
  have herror : Says errorPhrases (lowered (errorLine now what)) := by
    refine ⟨"connectphase2 error".toList, by decide, ?_⟩
    rw [hline, infix_prefix_iff (by decide), lowered_ascii_append (by decide)]
    exact List.IsInfix.trans (by decide) (List.prefix_append _ _).isInfix
  rw [cStr_eq_self hnul]
  split_ifs with h
  · exact stateChange_eq_connected_iff.2 (hconnected.2 h)
  · rw [stateChange, ← lowered, if_neg (fun h' => h (hconnected.1 h')), if_pos herror,
      errorDetail_errorLine]

namespace OpenVPNClient

/-! ## Phase 2 -/

/-- The events of the log callback for the lines of the D-Bus client. -/
def dbusEvents (c : OpenVPNClient) : List VpnEvent := c.dbus.toList.flatMap (·.events)

/-- The events that `openvpn_client_connect_phase2` has the log callback send, when
    Phase 2 ends with a result: those for the lines of the D-Bus client, and for
    the line of the exception. -/
def phase2Events (now : Stamp) : EStateM.Result Stop OpenVPNClient Unit → List VpnEvent
  | .ok _ c => c.dbusEvents
  | .error (.threw what) c => c.dbusEvents ++ logCallback (errorLine now what)
  | .error _ c => c.dbusEvents

/-- The last change of the state agrees with the result of Phase 2. The text of an
    error is shown without blanks around it. -/
def Agrees (r : EStateM.Result Stop OpenVPNClient Unit) (state : Option VpnState) : Prop :=
  match r with
  | .ok .. => state = some (.connected [] [])
  | .error (.threw what) _ => state = some (.error (trim (toStringLossy (cStr what))))
  | .error .. => True

/-- The message that an exception of Phase 2 quotes: that of the bus, the path of
    the profile, or a message that the D-Bus client received. -/
def quoted (env : Phase2Environment) (c : OpenVPNClient) : Bytes :=
  match env.bus, env.dbus.file, c.dbus with
  | .error e, _, _ => e.bytes
  | .ok (), none, _ => c.configPath
  | .ok (), some _, some d => DBusClient.quoted d.trace
  | .ok (), some _, none => []

/-- What can be heard agrees with the result: the last of what was received with a
    phrase in it has one of a connection; and what an exception quotes has none. -/
def Hears (env : Phase2Environment) : EStateM.Result Stop OpenVPNClient Unit → Prop
  | .ok _ c => ∃ d ∈ c.dbus, (lastHeard d.trace).2 = some true
  | .error (.threw _) c => ¬Says connectedPhrases (lowered (cStr (quoted env c)))
  | .error .. => True

/-- The words of the exceptions of Phase 2 that quote a message. -/
def quotingWords : List Bytes :=
  lit "Failed to connect to system bus: " :: lit "Cannot open config file: " ::
    DBusClient.quotingWords

/-- After these words, the phrases of the text are those of the message. -/
theorem says_quoting_iff {words : Bytes} (h : words ∈ quotingWords) (m : Bytes) :
    Says connectedPhrases (lowered (cStr (words ++ m))) ↔
      Says connectedPhrases (lowered (cStr m)) := by
  have hwords : ∀ words ∈ quotingWords, words = words.dropLast.dropLast ++ [58, 32] ∧ 0 ∉ words ∧
      ∀ p ∈ connectedPhrases, ¬p <:+: lowered words.dropLast.dropLast := by decide
  obtain ⟨hcut, hnul, hhead⟩ := hwords words h
  rw [cStr_append hnul, hcut, List.append_assoc]
  exact says_text_iff (by decide) (.inl rfl) hhead (cStr m)

/-- The phrases of the text of an exception are those of the message it quotes. -/
theorem says_exception_iff (d : DBusClient) :
    Says connectedPhrases (lowered (cStr d.exception.what)) ↔
      Says connectedPhrases (lowered (cStr d.exception.message)) := by
  rcases d.words_of_exception with h | ⟨h, hmessage⟩
  · exact says_quoting_iff (List.mem_cons_of_mem _ (List.mem_cons_of_mem _ h)) _
  · have hfixed : ∀ words ∈ DBusClient.fixedWords,
        ¬Says connectedPhrases (lowered (cStr (words ++ []))) := by decide +kernel
    rw [DBusClient.Exception.what, hmessage]
    exact iff_of_false (hfixed _ h) (by decide)

variable {now : Stamp}

/-- A Phase 2 that throws is not shown as connected exactly if its message says no connected
    phrase. -/
theorem agrees_threw_iff (what : Bytes) (c : OpenVPNClient) :
    Agrees (.error (.threw what) c) (lastState (phase2Events now (.error (.threw what) c))) ↔
      ¬Says connectedPhrases (lowered (cStr what)) := by
  rw [Agrees, phase2Events, lastState_append, lastState_logCallback, stateChange_errorLine]
  split_ifs with h <;> simp [h]

theorem agrees_ok_iff {d : DBusClient} (hd : d.Shows) (env : Phase2Environment) (c : OpenVPNClient) :
    Agrees (.ok () { c with dbus := some d })
        (lastState (phase2Events now (.ok () { c with dbus := some d }))) ↔
      Hears env (.ok () { c with dbus := some d }) := by
  have hevents : phase2Events now (.ok () { c with dbus := some d }) = d.events :=
    List.flatMap_singleton _ _
  rw [Agrees, Hears, hevents]
  simp only [Option.mem_def, Option.some.injEq, exists_eq_left', hd.2, DBusClient.shown,
    Option.map_eq_some_iff, isConnected, decide_eq_true_eq, exists_eq_right]

/-- When Phase 2 over D-Bus returns, the D-Bus client shows what was listened to;
    when it throws, the phrases of the text are those of what is quoted. -/
theorem wp_connectDBus_shows {settings : Settings} (hlevel : settings.logLevel = 1)
    (stateId token remoteIp : Bytes) (env : Phase2Environment) (c : OpenVPNClient) :
    wp (connectDBus settings stateId token remoteIp env)
      (fun _ c' => ∃ d : DBusClient, d.Shows ∧ c' = { c with dbus := some d })
      (fun e c' => ∀ what, e = .threw what → (Says connectedPhrases (lowered (cStr what)) ↔
        Says connectedPhrases (lowered (cStr (quoted env c'))))) c := by
  have hshows := (DBusClient.invariant_shows env.dbus).wp_connect
    (c := { logLevel := settings.logLevel }) ⟨hlevel, rfl⟩ c.configPath stateId token remoteIp
  have hexception := DBusClient.wp_connect_exception env.dbus c.configPath stateId token remoteIp
    settings.logLevel
  rw [connectDBus]
  cases hbus : env.bus with
  | error e =>
    rintro what ⟨⟩
    rw [quoted, hbus]
    exact says_quoting_iff (by simp [quotingWords]) e.bytes
  | ok =>
    simp only [wp_bind, wp_get]
    split
    · next d hd => exact ⟨d, (post_of_wp hshows hd).1, rfl⟩
    · next e d hd =>
      rintro what rfl
      rw [quoted, hbus]
      rcases exn_of_wp hexception hd what rfl with ⟨hfile, rfl⟩ | ⟨hfile, rfl, hquoted⟩
      · rw [hfile]
        exact says_quoting_iff (by simp [quotingWords]) c.configPath
      · obtain ⟨content, hfile⟩ := Option.isSome_iff_exists.1 hfile
        rw [hfile, says_exception_iff, hquoted]

/-- The services set a session up, which then has the numbers of a connection. -/
def succeeds : Environment :=
  { DBusClient.setsUp with waits :=
      [{ signals := [.ofStatus ⟨2, 101, .empty⟩] }] }

end OpenVPNClient

end OpenLawsVpn
