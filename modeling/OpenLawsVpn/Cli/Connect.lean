import OpenLawsVpn.Cli.Browser

/-!
# Connecting from the CLI

`do_connect` of the CLI's `main`: Phase 1, the capture of the SAML token while
the browser is open, and Phase 2 with what they gave. Each of the three may
throw, which ends it there.

The line handed to the shell is safe for exactly the challenges whose text has
no single quote (`system_doConnect_iff`).

* `doConnect`: the statements of the function, with the environment that answers them;
* `system_doConnect_iff`: the criterion, for every challenge that the client accepts;
* `reboot_of_doConnect`: a challenge that has the shell run `reboot`.
-/

namespace OpenLawsVpn

/-- `OpenVPNClient::Phase1Result` has the fields of a challenge. -/
abbrev Phase1Result := Challenge

/-- `do_connect`, with the readings `now` of the clock, the exit statuses
    `system` of commands, the result of Phase 1, the token captured, and Phase 2
    as a function of its arguments. -/
def doConnect (now : ℕ → Stamp) (system : Bytes → ℤ) (phase1 : Except Bytes Phase1Result)
    (token : Except Bytes Bytes) (phase2 : Bytes → Bytes → Bytes → Except Bytes Unit) :
    List CliAction × Except Bytes Unit :=
  let line (i : ℕ) (text : Bytes) : CliAction := .stdout (getLogPrefix (now i) ++ text ++ lit "\n")
  let start := [line 0 (lit " Phase 1: connecting to provoke CRV1 challenge...")]
  match phase1 with
  | .error e => (start, .error e)
  | .ok phase1 =>
    let login := start ++
      [line 1 (lit " SAML URL received: " ++ phase1.samlUrl),
        line 2 (lit " State ID: " ++ phase1.stateId),
        line 3 (lit " Please complete SAML login in your browser.")] ++
      openBrowser (fun i => now (4 + i)) system phase1.samlUrl
    match token with
    | .error e => (login, .error e)
    | .ok token =>
      (login ++ [line 7 (lit " SAML token received."),
          line 8 (lit " Phase 2: establishing tunnel...")],
        phase2 phase1.stateId token phase1.remoteIp)

variable {now : ℕ → Stamp} {system : Bytes → ℤ} {phase1 : Phase1Result}
  {token : Except Bytes Bytes} {phase2 : Bytes → Bytes → Bytes → Except Bytes Unit}

/-- The one command run is the one opening the URL of the challenge. -/
theorem system_mem_doConnect_iff {cmd : Bytes} :
    CliAction.system cmd ∈ (doConnect now system (.ok phase1) token phase2).1 ↔
      phase1.samlUrl ≠ [] ∧ cmd = xdgOpenCommand (fullUrl phase1.samlUrl) := by
  have hopen : CliAction.system cmd ∈ openBrowser (fun i => now (4 + i)) system phase1.samlUrl ↔
      phase1.samlUrl ≠ [] ∧ cmd = xdgOpenCommand (fullUrl phase1.samlUrl) := by
    rw [openBrowser]
    by_cases hurl : phase1.samlUrl = []
    · simp [hurl]
    · by_cases hstatus : system (xdgOpenCommand (fullUrl phase1.samlUrl)) = 0 <;>
        simp [hurl, hstatus]
  cases token <;> simp [doConnect, hopen]

/-- The scheme that is put before a URL has no quote. -/
theorem mem_fullUrl_iff {b : UInt8} (hb : b ∉ lit "https://") {url : Bytes} :
    b ∈ fullUrl url ↔ b ∈ url := by
  rw [fullUrl]
  split_ifs <;> simp [hb]

/-- A byte that the command line does not have itself comes from the URL. -/
theorem mem_xdgOpenCommand_iff {b : UInt8} (hb : b ∉ lit "xdg-open 'https://' >/dev/null 2>&1 &")
    {url : Bytes} : b ∈ xdgOpenCommand (fullUrl url) ↔ b ∈ url := by
  have h₁ : b ∉ lit "https://" := fun h => hb ((by decide : lit "https://" ⊆ _) h)
  have h₂ : b ∉ lit "xdg-open '" := fun h => hb ((by decide : lit "xdg-open '" ⊆ _) h)
  have h₃ : b ∉ lit "' >/dev/null 2>&1 &" := fun h =>
    hb ((by decide : lit "' >/dev/null 2>&1 &" ⊆ _) h)
  simp [xdgOpenCommand, mem_fullUrl_iff h₁, h₂, h₃]

/-- An accepted challenge of the text `x`, handed to the browser, makes the shell
    run the command opening that URL and nothing else, exactly when `x` has no
    single quote. -/
theorem system_doConnect_iff {level : ℤ} {t : Stamp} {c : CoreClient} {m : Crv1}
    (hnul : 0 ∉ m.text)
    (hwait : (c.event level t (CoreClient.challengeEvent m.render)).1.waitForSaml = .ok phase1) :
    (∀ cmd, CliAction.system cmd ∈ (doConnect now system (.ok phase1) token phase2).1 →
      Shell.read (cStr cmd) = some (xdgOpen (fullUrl m.text)).inBackground) ↔ 39 ∉ m.text := by
  have htext : phase1.samlUrl = m.text := by
    rw [CoreClient.event_challenge_of_render, CoreClient.waitForSaml] at hwait
    split_ifs at hwait
    rw [← Except.ok.inj hwait]
  rw [← htext] at hnul ⊢
  -- A URL without a NUL is the whole C string.
  have hcmd : cStr (xdgOpenCommand (fullUrl phase1.samlUrl)) =
      xdgOpenCommand (fullUrl phase1.samlUrl) :=
    cStr_eq_self fun h => hnul ((mem_xdgOpenCommand_iff (by decide)).1 h)
  simp only [system_mem_doConnect_iff]
  constructor
  · intro h
    by_cases hurl : phase1.samlUrl = []
    · simp [hurl]
    · have hread := h _ ⟨hurl, rfl⟩
      rw [hcmd, read_xdgOpenCommand_iff, mem_fullUrl_iff (by decide)] at hread
      exact hread
  · rintro hq _ ⟨-, rfl⟩
    rw [hcmd, read_xdgOpenCommand_iff, mem_fullUrl_iff (by decide)]
    exact hq

/-- A harmless challenge, from a client without an error. -/
theorem system_doConnect_iff_portal :
    (∀ cmd, CliAction.system cmd ∈ (doConnect (fun _ => ⟨2026, 1, 1, 0, 0, 0⟩) (fun _ => 0)
        (.ok ⟨lit "https://portal", lit "sid", lit "10.0.0.1"⟩) (.error []) fun _ _ _ => .ok ()).1 →
      Shell.read (cStr cmd) = some (xdgOpen (fullUrl (lit "https://portal"))).inBackground) ↔
    39 ∉ lit "https://portal" :=
  have hwait : (({ remoteIp := lit "10.0.0.1" } : CoreClient).event 1 ⟨2026, 1, 1, 0, 0, 0⟩
      (CoreClient.challengeEvent (Crv1.render ⟨lit "R", lit "sid", lit "dXNlcg==",
        lit "https://portal", by decide, by decide, by decide⟩))).1.waitForSaml =
          .ok ⟨lit "https://portal", lit "sid", lit "10.0.0.1"⟩ := rfl
  system_doConnect_iff (by decide) hwait

/-- The challenge `CRV1:R:sid:dQ==:https://a';reboot;'b` has the shell run `reboot`. -/
theorem reboot_of_doConnect :
    ∃ ch cmd,
      (({} : CoreClient).event 1 ⟨2026, 1, 1, 0, 0, 0⟩ (CoreClient.challengeEvent
        (lit "CRV1:R:sid:dQ==:https://a';reboot;'b"))).1.waitForSaml = .ok ch ∧
      CliAction.system cmd ∈ (doConnect (fun _ => ⟨2026, 1, 1, 0, 0, 0⟩) (fun _ => 0) (.ok ch)
        (.error []) fun _ _ _ => .ok ()).1 ∧
      Shell.read (cStr cmd) = some ([.word (lit "xdg-open"), .word (lit "https://a"), .op (lit ";"),
        .word (lit "reboot"), .op (lit ";")] ++ (xdgOpen (lit "b")).inBackground.tail) ∧
      Shell.read (cStr cmd) ≠ some (xdgOpen (fullUrl ch.samlUrl)).inBackground := by
  refine ⟨⟨lit "https://a';reboot;'b", lit "sid", []⟩, xdgOpenCommand (lit "https://a';reboot;'b"), ?_⟩
  decide

end OpenLawsVpn
