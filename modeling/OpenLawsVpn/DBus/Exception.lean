import OpenLawsVpn.DBus.Connect

/-!
# The exceptions of an attempt

An attempt ends with an exception whose text has fixed words, and may quote a
message (`Exception`). Which one it is depends on how far the attempt got: on the
last of its steps, if that went wrong (`lastSetback`), and else on the failure
noted in the state (`exception`).

* `Exception.what`: the text, made of the words and the message;
* `lastSetback_append_of_step`: the last step that may be a setback decides;
* `threw_exception`: so the exception thrown is known from the state it is thrown in.
-/

namespace OpenLawsVpn.DBusClient

/-- An exception: fixed words, and the message it quotes. -/
structure Exception where
  words : Bytes
  message : Bytes
  deriving DecidableEq, Repr

/-- `e.what()`. -/
def Exception.what (x : Exception) : Bytes := x.words ++ x.message

/-- A step of an attempt, with the exception that it would end with, if any. The
    cleanup is not a step. -/
def step? : DBusAction → Option (Option Exception)
  | .call (.importConfig _ (.error e)) =>
    some (some ⟨lit "Failed to import configuration: ", e.message.bytes⟩)
  | .call (.newTunnel _ (.error e)) =>
    some (some ⟨lit "Failed to create new tunnel: ", e.message.bytes⟩)
  | .call (.introspect _ false) =>
    some (some ⟨lit "Timeout waiting for session object to become available on D-Bus", []⟩)
  | .call (.ready _ (.error _)) => some (some ⟨lit "Session not ready for connection", []⟩)
  | .call (.connect _ (.error e)) =>
    some (some ⟨lit "Failed to initiate connect via D-Bus: ", e.message.bytes⟩)
  | .timedOut => some (some ⟨lit "Timeout waiting for D-Bus connection status", []⟩)
  | .call (.disconnect _) => none
  | .call _ => some none
  | _ => none

/-- The exception that the last step would end with. -/
def lastSetback (trace : List DBusAction) : Option Exception := (trace.filterMap step?).getLast?.join

/-- The exception that an attempt ends with: after the wait, it is for the failure
    noted in the state. -/
def exception (c : DBusClient) : Exception :=
  (lastSetback c.trace).getD ⟨lit "VPN connection failed: ", c.errorMsg⟩

/-- The last step that may be a setback decides. -/
theorem lastSetback_append_of_step {trace : List DBusAction} {a : DBusAction}
    {x : Option Exception} (h : step? a = some x) : lastSetback (trace ++ [a]) = x := by
  rw [lastSetback, List.filterMap_append, List.filterMap_cons_some h, List.filterMap_nil,
    List.getLast?_concat]
  rfl

/-- Other actions do not count. -/
theorem lastSetback_append_of_none {trace : List DBusAction} {a : DBusAction}
    (h : step? a = none) : lastSetback (trace ++ [a]) = lastSetback trace := by
  rw [lastSetback, List.filterMap_append, List.filterMap_cons_none h, List.filterMap_nil,
    List.append_nil]
  rfl

section Setbacks

variable {clock : ℕ → Stamp} {c : DBusClient} {x : Exception}

/-- The text of the exception is that of the last setback. -/
theorem threw_exception (h : lastSetback c.trace = some x) :
    Stop.threw x.what = .threw (exception c).what := by
  rw [exception, h]
  rfl

theorem threw_push {a : DBusAction} (h : step? a = some (some x)) :
    Stop.threw x.what = .threw (exception (c.push a)).what :=
  threw_exception (lastSetback_append_of_step h)

theorem lastSetback_cout (level : ℤ) (text : Bytes) :
    lastSetback (c.cout level clock text).trace = lastSetback c.trace :=
  cout_induction (P := fun c' => lastSetback c'.trace = lastSetback c.trace)
    (fun _ => lastSetback_append_of_none rfl) rfl level text

theorem lastSetback_logAt (level : ℤ) (text : Bytes) :
    lastSetback (c.logAt level clock text).trace = lastSetback c.trace :=
  logAt_induction (P := fun c' => lastSetback c'.trace = lastSetback c.trace)
    (fun _ => lastSetback_append_of_none rfl) rfl level text

theorem lastSetback_dispatch (signals : List Signal) :
    lastSetback (c.dispatch clock signals).trace = lastSetback c.trace :=
  dispatch_induction_of_push (P := fun c' => lastSetback c'.trace = lastSetback c.trace)
    (fun _ _ h => (lastSetback_append_of_none rfl).trans h)
    (fun _ _ h => (lastSetback_append_of_none rfl).trans h) (fun _ h => h) (fun _ _ h => h)
    signals rfl

theorem lastSetback_onPolledStatus (reply : Option Status) :
    lastSetback (onPolledStatus clock reply c).2.trace = lastSetback c.trace :=
  onPolledStatus_induction (P := fun c' => lastSetback c'.trace = lastSetback c.trace)
    (fun _ _ h => (lastSetback_append_of_none rfl).trans h) (fun _ h => h) (fun _ _ h => h) reply rfl

theorem lastSetback_onPolledConnectedTo (reply : Option CString) :
    lastSetback (onPolledConnectedTo clock reply c).2.trace = lastSetback c.trace :=
  onPolledConnectedTo_induction (P := fun c' => lastSetback c'.trace = lastSetback c.trace)
    (fun _ _ h => (lastSetback_append_of_none rfl).trans h) (fun _ h => h) reply rfl

end Setbacks

/-! ## Words -/

/-- The words of the exceptions that quote a message. -/
def quotingWords : List Bytes :=
  [lit "Failed to import configuration: ", lit "Failed to create new tunnel: ",
    lit "Failed to initiate connect via D-Bus: ", lit "VPN connection failed: "]

/-- The words of the exceptions that quote nothing. -/
def fixedWords : List Bytes :=
  [lit "Timeout waiting for session object to become available on D-Bus",
    lit "Session not ready for connection", lit "Timeout waiting for D-Bus connection status"]

/-- The words of a setback quote an error, or are fixed. -/
theorem words_of_step {a : DBusAction} {x : Exception} (h : step? a = some (some x)) :
    x.words ∈ quotingWords ∨ x.words ∈ fixedWords ∧ x.message = [] := by
  cases a with
  | call k =>
    cases k with
    | importConfig _ reply => cases reply <;> cases h; exact .inl (by simp [quotingWords])
    | newTunnel _ reply => cases reply <;> cases h; exact .inl (by simp [quotingWords])
    | introspect _ reply => cases reply <;> cases h; exact .inr ⟨by decide, rfl⟩
    | ready _ reply => cases reply <;> cases h; exact .inr ⟨by decide, rfl⟩
    | connect _ reply => cases reply <;> cases h; exact .inl (by simp [quotingWords])
    | _ => cases h
  | timedOut => cases h; exact .inr ⟨by decide, rfl⟩
  | _ => cases h

theorem words_of_exception (c : DBusClient) :
    (exception c).words ∈ quotingWords ∨
      (exception c).words ∈ fixedWords ∧ (exception c).message = [] := by
  rw [exception]
  cases hlast : lastSetback c.trace with
  | none => exact .inl (by simp [quotingWords])
  | some x =>
    obtain ⟨a, -, ha⟩ := List.mem_filterMap.1 (List.mem_of_getLast? (Option.join_eq_some_iff.1 hlast))
    exact words_of_step ha

end OpenLawsVpn.DBusClient
