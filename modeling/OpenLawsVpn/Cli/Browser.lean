import OpenLawsVpn.Core.Challenge
import OpenLawsVpn.Lib.Shell

/-!
# Opening the browser

After Phase 1, the CLI opens the URL of the challenge in a browser: it has the
shell run `xdg-open '<url>' >/dev/null 2>&1 &` (`openBrowser`). The URL comes
from the server, and the challenge grammar puts no restriction on it.

The shell reads that line as one command in the background, opening the URL, if
and only if the URL has no single quote (`read_xdgOpenCommand_iff`): a quote in
the URL closes the one before it, and no continuation makes up for the byte it
gives away.

* `xdgOpenCommand`: the line that is handed to the shell;
* `read_xdgOpenCommand_iff`: what the shell reads of it, for every URL. It rests on the count of
  bytes in `Shell`: a quote in the URL has words shorter than the line would need.
-/

namespace OpenLawsVpn

/-- What the CLI does to the world. -/
inductive CliAction
  | stdout (line : Bytes)
  | stderr (line : Bytes)
  /-- `std::system`, with the string passed to it. -/
  | system (cmd : Bytes)
  deriving DecidableEq, Repr

/-- A URL with a scheme. -/
def fullUrl (url : Bytes) : Bytes :=
  if Search.find (lit "://") url = none then lit "https://" ++ url else url

/-- The command line opening a URL. -/
def xdgOpenCommand (fullUrl : Bytes) : Bytes :=
  lit "xdg-open '" ++ fullUrl ++ lit "' >/dev/null 2>&1 &"

/-- `open_browser`, with the readings `now` of the clock and the exit status
    `system` gives a command. -/
def openBrowser (now : ℕ → Stamp) (system : Bytes → ℤ) (url : Bytes) : List CliAction :=
  if url = [] then [.stderr (getLogPrefix (now 0) ++ lit " Error: SAML URL is empty.\n")]
  else
    let cmd := xdgOpenCommand (fullUrl url)
    let status := system cmd
    [.stdout (getLogPrefix (now 0) ++ lit " Attempting to open browser for SAML login...\n"),
      .system cmd] ++
    if status = 0 then
      [.stdout (getLogPrefix (now 1) ++ lit " Browser opening command dispatched.\n")]
    else
      [.stderr (getLogPrefix (now 1) ++ lit " Failed to execute browser opening command (exit code: " ++
          (if status < 0 then lit "-" else []) ++ decimal status.natAbs ++ lit ").\n"),
        .stderr (getLogPrefix (now 2) ++ lit " Please open the URL manually: " ++ fullUrl url ++
          lit "\n")]

/-! ## What the shell reads -/

open Shell

/-- The command that opens `url` and nothing else, with its output discarded. -/
def xdgOpen (url : Bytes) : SimpleCommand where
  words := [lit "xdg-open", url]
  redirections := [⟨none, lit ">", lit "/dev/null"⟩, ⟨some (lit "2"), lit ">&", lit "1"⟩]

/-- The tokens of the redirections of the command line and of its end. -/
def redirectionTokens : List Token :=
  [.op (lit ">"), .word ((lit "/dev/null").map .plain), .ioNumber ((lit "2").map .plain),
    .op (lit ">&"), .word ((lit "1").map .plain), .op (lit "&")]

/-- The lexer has read up to the opening quote. -/
theorem foldl_xdgOpen :
    (lit "xdg-open '").foldl Lexer.step {} =
      ⟨.single, some [], [.word ((lit "xdg-open").map .plain)]⟩ := by decide

/-- The rest of the line is read as redirections. -/
theorem foldl_redirections :
    (lit ">/dev/null 2>&1 &").foldl Lexer.step {} =
      ⟨.operator (lit "&"), none, redirectionTokens.dropLast⟩ := by decide

/-- Outside of all quotes, the end of the line is read as it is meant. -/
theorem finish_redirections {s : Lexer} (hm : s.mode = .plain) :
    ((lit " >/dev/null 2>&1 &").foldl Lexer.step s).finish =
      some ((s.delimit false).tokens ++ redirectionTokens) := by
  have hblank : s.step 32 = Lexer.after (s.delimit false).tokens {} := by
    rw [Lexer.step, hm]
    change s.delimit false = _
    rw [Lexer.delimit, Lexer.after]
    cases hw : s.word <;> simp [← hm, ← hw]
  rw [show lit " >/dev/null 2>&1 &" = 32 :: lit ">/dev/null 2>&1 &" from rfl, List.foldl_cons,
    hblank, Lexer.foldl_after, foldl_redirections]
  simp [Lexer.after, Lexer.finish, Lexer.emitOp, redirectionTokens, lit]

/-- A URL without single quotes is read as one word. -/
theorem finish_xdgOpenCommand {url : Bytes} (hq : 39 ∉ url) :
    ((xdgOpenCommand url).foldl Lexer.step {}).finish =
      some ([.word ((lit "xdg-open").map .plain), .word (url.map .quoted)] ++ redirectionTokens) := by
  rw [xdgOpenCommand, show lit "' >/dev/null 2>&1 &" = 39 :: lit " >/dev/null 2>&1 &" from rfl,
    List.foldl_append, List.foldl_append, foldl_xdgOpen, Lexer.foldl_single hq, List.foldl_cons,
    finish_redirections (by simp [Lexer.step])]
  simp [Lexer.step, Lexer.delimit]

/-- The line of a URL with a single quote has less room for words than needed. -/
theorem size_tokens_lt {url : Bytes} (hq : 39 ∈ url) {ts : List Token}
    (h : ((xdgOpenCommand url).foldl Lexer.step {}).finish = some ts) :
    (ts.map Token.size).sum < url.length + 18 := by
  obtain ⟨p, q, rfl, hp⟩ := List.eq_append_cons_of_mem hq
  -- The first quote of the URL closes the opening one.
  have hs₀ : (lit "xdg-open '" ++ p ++ [39]).foldl Lexer.step {} =
      ⟨.plain, some (p.map .quoted), [.word ((lit "xdg-open").map .plain)]⟩ := by
    rw [List.foldl_append, List.foldl_append, foldl_xdgOpen, Lexer.foldl_single hp]
    simp [Lexer.step]
  generalize hs : (⟨.plain, some (p.map .quoted), [.word ((lit "xdg-open").map .plain)]⟩ : Lexer) = s₀
    at hs₀
  have hsize₀ : s₀.size = p.length + 8 := by
    rw [← hs]
    simp [Lexer.size, Lexer.pending, Token.size, lit]
    omega
  have hsize := Lexer.size_foldl_lt (s := s₀) (by rw [← hs]) (l := q ++ [39]) (by simp)
  have hmode := Lexer.mode_step_quote (q.foldl Lexer.step s₀)
  rw [show Lexer.step (q.foldl Lexer.step s₀) 39 = (q ++ [39]).foldl Lexer.step s₀ by
    rw [List.foldl_append]; rfl] at hmode
  have hcmd : xdgOpenCommand (p ++ 39 :: q) =
      (lit "xdg-open '" ++ p ++ [39]) ++ ((q ++ [39]) ++ lit " >/dev/null 2>&1 &") := by
    rw [xdgOpenCommand, show lit "' >/dev/null 2>&1 &" = [39] ++ lit " >/dev/null 2>&1 &" from rfl]
    simp
  rw [hcmd, List.foldl_append, hs₀, List.foldl_append] at h
  generalize (q ++ [39]).foldl Lexer.step s₀ = s at h hsize hmode
  have hdel := (Lexer.sum_tokens_le (s.delimit false)).trans (Lexer.size_delimit_le false s)
  simp only [List.length_append, List.length_cons, List.length_nil] at hsize ⊢
  rcases hmode with hm | hm | hm
  · -- All quotes are closed: the end of the line is read, too.
    rw [finish_redirections hm] at h
    rw [← Option.some.inj h, List.map_append, List.sum_append,
      show (redirectionTokens.map Token.size).sum = 10 from rfl]
    omega
  · -- The end of the line is a comment.
    rw [Lexer.foldl_comment hm (by decide), Lexer.finish, hm] at h
    rw [← Option.some.inj h]
    omega
  · -- A quote stays open, and the line is not read at all.
    rw [Lexer.finish_of_inQuotes (Lexer.inQuotes_foldl hm (by decide) (by decide))] at h
    cases h

/-- The shell reads the command line as the command opening the URL, and nothing
    else, exactly when the URL has no single quote. -/
theorem read_xdgOpenCommand_iff {url : Bytes} :
    Shell.read (xdgOpenCommand url) = some (xdgOpen url).inBackground ↔ 39 ∉ url := by
  constructor
  · intro h hq
    obtain ⟨ts, hts, hread⟩ := Option.map_eq_some_iff.1 h
    have hsum : (ts.map Token.size).sum = ((xdgOpen url).inBackground.map Lexeme.size).sum := by
      rw [← hread, List.map_map]
      exact congrArg List.sum (List.map_congr_left fun t _ => (Token.size_read t).symm)
    have hlen : ((xdgOpen url).inBackground.map Lexeme.size).sum = url.length + 18 := by
      simp [xdgOpen, SimpleCommand.inBackground, SimpleCommand.lexemes, Redirection.lexemes,
        Lexeme.size, lit]
      omega
    exact absurd (size_tokens_lt hq hts) (by rw [hsum, hlen]; exact lt_irrefl _)
  · intro hq
    rw [Shell.read, finish_xdgOpenCommand hq]
    have hword : Token.read (.word (url.map .quoted)) = .word url := by
      simp [Token.read, Piece.isActive, Piece.byte, Function.comp_def]
    rw [Option.map_some, List.map_append, List.map_cons, List.map_cons, hword]
    rfl

end OpenLawsVpn
