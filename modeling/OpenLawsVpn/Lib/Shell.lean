import Mathlib.Data.List.Basic
import Mathlib.Algebra.BigOperators.Group.List.Basic
import Mathlib.Algebra.Order.Ring.Nat

/-!
# Reading a shell command

How a POSIX shell reads a command line, up to the tokens of its grammar: token
recognition with the three kinds of quoting (backslash, single and double
quotes), operators, comments, the numbers of redirected descriptors, and the
places where an expansion is performed.

The lexer is an automaton run over the bytes of the line (`step`). A word is
kept as its bytes together with how each was written (`Piece`): a *quoted* byte
stands for itself, a *plain* one too, while an *active* one, such as an unquoted
dollar, is something for the shell to interpret. Reading a line
(`read`) removes the quotes, keeping words apart from those in which an
expansion is performed.

No byte of a line gives more than one byte of a word (`size_step_le`), and the
quotes give none: a line in which the shell meets an unquoted quote has words
shorter than itself (`size_foldl_lt`).

* `foldl_single`: text between single quotes stands for itself, if it has no such quote;
* `finish_of_inQuotes`: a line that ends inside quotes is not complete;
* `foldl_comment`: a comment goes on to the end of the line;
* `Token.size_read`, `sum_tokens_le`: the tokens read are no longer than the line.
-/

namespace Shell

/-- A byte of a word, with how it was written. -/
inductive Piece
  | quoted (b : UInt8)
  | plain (b : UInt8)
  | active (b : UInt8)
  deriving DecidableEq, Repr

/-- The byte itself. -/
def Piece.byte : Piece → UInt8
  | quoted b | plain b | active b => b

/-- Something for the shell to interpret. -/
def Piece.isActive : Piece → Bool
  | active _ => true
  | _ => false

/-- An unquoted digit. -/
def Piece.isPlainDigit : Piece → Bool
  | plain b => 48 ≤ b && b ≤ 57
  | _ => false

/-- A token, before quote removal. -/
inductive Token
  | word (ps : List Piece)
  | ioNumber (ps : List Piece)
  | op (bs : List UInt8)
  deriving DecidableEq, Repr

/-- What the lexer is in the middle of. -/
inductive Mode
  | plain
  | escape
  | single
  | double
  | doubleEscape
  | operator (bs : List UInt8)
  | comment
  deriving DecidableEq, Repr

/-- The state of the lexer: the word under way, if any, and the tokens read. -/
structure Lexer where
  mode : Mode := .plain
  word : Option (List Piece) := none
  tokens : List Token := []
  deriving DecidableEq, Repr

/-- The operators of more than one byte. -/
def longOperators : List (List UInt8) :=
  ["&&", "||", ";;", "<<", ">>", "<&", ">&", "<>", ">|", "<<-"].map fun s =>
    s.toList.map Char.toUInt8

/-- A byte that starts an operator. -/
def startsOperator (b : UInt8) : Bool := ("|&;<>()".toList.map Char.toUInt8).contains b

/-- A byte that, unquoted, starts an expansion: a parameter, command or
    arithmetic one, a pathname pattern or a tilde. -/
def startsExpansion (b : UInt8) : Bool := ("$`*?[~".toList.map Char.toUInt8).contains b

/-- A byte that a backslash quotes between double quotes. -/
def escapableInDouble (b : UInt8) : Bool := ("$`\"\\".toList.map Char.toUInt8).contains b

namespace Lexer

/-- Adding a piece to the word under way, which it starts if need be. -/
def push (p : Piece) (s : Lexer) : Lexer := { s with word := some (s.word.getD [] ++ [p]) }

/-- A quote opens: it starts a word, even an empty one. -/
def openQuote (m : Mode) (s : Lexer) : Lexer := { s with word := some (s.word.getD []), mode := m }

/-- The word under way ends; before a redirection, a number is one of a
    descriptor. -/
def delimit (redirection : Bool) (s : Lexer) : Lexer :=
  match s.word with
  | none => s
  | some ps =>
    { s with
      word := none
      tokens := s.tokens ++
        [if redirection && ps ≠ [] && ps.all Piece.isPlainDigit then .ioNumber ps else .word ps] }

/-- A complete operator is read. -/
def emitOp (bs : List UInt8) (s : Lexer) : Lexer :=
  { s with mode := .plain, tokens := s.tokens ++ [.op bs] }

/-- A byte outside of all quotes. -/
def plainStep (s : Lexer) (b : UInt8) : Lexer :=
  if b = 39 then s.openQuote .single
  else if b = 34 then s.openQuote .double
  else if b = 92 then { s with mode := .escape }
  else if b = 10 then (s.delimit false).emitOp [10]
  else if startsOperator b then { s.delimit (b = 60 || b = 62) with mode := .operator [b] }
  else if b = 32 ∨ b = 9 then s.delimit false
  else if b = 35 ∧ s.word = none then { s with mode := .comment }
  else if startsExpansion b then s.push (.active b)
  else s.push (.plain b)

/-- The lexer reads a byte. -/
def step (s : Lexer) (b : UInt8) : Lexer :=
  match s.mode with
  | .plain => s.plainStep b
  | .escape =>
    -- A backslash before a line end joins the lines.
    if b = 10 then { s with mode := .plain } else { s.push (.quoted b) with mode := .plain }
  | .single => if b = 39 then { s with mode := .plain } else s.push (.quoted b)
  | .double =>
    if b = 34 then { s with mode := .plain }
    else if b = 92 then { s with mode := .doubleEscape }
    else if b = 36 ∨ b = 96 then s.push (.active b)
    else s.push (.quoted b)
  | .doubleEscape =>
    if b = 10 then { s with mode := .double }
    else if escapableInDouble b then { s.push (.quoted b) with mode := .double }
    else { (s.push (.quoted 92)).push (.quoted b) with mode := .double }
  | .operator bs =>
    if bs ++ [b] ∈ longOperators then { s with mode := .operator (bs ++ [b]) }
    else (s.emitOp bs).plainStep b
  | .comment => if b = 10 then s.emitOp [10] else s

/-- The line ends: with its tokens, unless in the middle of a quoting. -/
def finish (s : Lexer) : Option (List Token) :=
  match s.mode with
  | .plain | .comment => some (s.delimit false).tokens
  | .operator bs => some (s.emitOp bs).tokens
  | .escape | .single | .double | .doubleEscape => none

end Lexer

/-! ## Reading a line -/

/-- A token, after quote removal. -/
inductive Lexeme
  /-- A word in which nothing is left to interpret. -/
  | word (value : List UInt8)
  /-- A word in which an expansion is performed. -/
  | expansion (raw : List UInt8)
  | ioNumber (digits : List UInt8)
  | op (bs : List UInt8)
  deriving DecidableEq, Repr

/-- Quote removal. -/
def Token.read : Token → Lexeme
  | word ps => if ps.any Piece.isActive then .expansion (ps.map Piece.byte) else .word (ps.map Piece.byte)
  | ioNumber ps => .ioNumber (ps.map Piece.byte)
  | op bs => .op bs

/-- A line as the shell reads it, unless it ends in the middle of a quoting. -/
def read (line : List UInt8) : Option (List Lexeme) :=
  (line.foldl Lexer.step {}).finish.map (·.map Token.read)

/-- A redirection of a descriptor. -/
structure Redirection where
  descriptor : Option (List UInt8)
  op : List UInt8
  target : List UInt8
  deriving DecidableEq, Repr

/-- A simple command: its words, and its redirections after them. -/
structure SimpleCommand where
  words : List (List UInt8)
  redirections : List Redirection
  deriving DecidableEq, Repr

/-- The tokens of a redirection. -/
def Redirection.lexemes (r : Redirection) : List Lexeme :=
  r.descriptor.toList.map .ioNumber ++ [.op r.op, .word r.target]

/-- The tokens of a simple command. -/
def SimpleCommand.lexemes (c : SimpleCommand) : List Lexeme :=
  c.words.map .word ++ c.redirections.flatMap Redirection.lexemes

/-- The tokens of a simple command run in the background, which ends the line. -/
def SimpleCommand.inBackground (c : SimpleCommand) : List Lexeme := c.lexemes ++ [.op [38]]

/-! ## Sizes -/

/-- The number of bytes of a word. -/
def Lexeme.size : Lexeme → ℕ
  | word v | expansion v => v.length
  | ioNumber _ | op _ => 0

/-- The number of bytes of a word, before quote removal. -/
def Token.size : Token → ℕ
  | word ps => ps.length
  | ioNumber _ | op _ => 0

/-- The size of a token is what its text has. -/
@[simp]
theorem Token.size_read (t : Token) : t.read.size = t.size := by
  cases t with
  | word ps => rw [Token.read]; split_ifs <;> simp [Lexeme.size, Token.size]
  | ioNumber ps => rfl
  | op bs => rfl

namespace Lexer

/-- A backslash between double quotes may turn out to be a byte of the word. -/
def pending : Mode → ℕ
  | .doubleEscape => 1
  | _ => 0

/-- The number of bytes of the words read so far, and pending. -/
def size (s : Lexer) : ℕ :=
  (s.tokens.map Token.size).sum + (s.word.getD []).length + pending s.mode

variable {s : Lexer}

/-- The tokens read are no longer than all read. -/
theorem sum_tokens_le (s : Lexer) : (s.tokens.map Token.size).sum ≤ s.size := by
  rw [size]
  omega

theorem size_push (p : Piece) (s : Lexer) : (s.push p).size = s.size + 1 := by
  simp only [size, push, Option.getD_some, List.length_append, List.length_singleton]
  omega

/-- The end of a token adds nothing. -/
theorem size_delimit_le (r : Bool) (s : Lexer) : (s.delimit r).size ≤ s.size := by
  rw [delimit]
  cases hw : s.word with
  | none => exact le_rfl
  | some ps =>
    have hsize : ∀ t : Token, t.size ≤ ps.length →
        ({ s with word := none, tokens := s.tokens ++ [t] } : Lexer).size ≤ s.size := by
      intro t ht
      simp only [size, hw, List.map_append, List.sum_append, List.map_singleton, List.sum_singleton,
        Option.getD_none, Option.getD_some, List.length_nil]
      omega
    apply hsize
    split_ifs <;> simp [Token.size]

@[simp]
theorem mode_delimit (r : Bool) (s : Lexer) : (s.delimit r).mode = s.mode := by
  rw [delimit]
  cases s.word <;> rfl

/-- Changing what the lexer is in the middle of keeps the words. -/
theorem size_setMode {m : Mode} (hm : pending m = 0) (s : Lexer) :
    ({ s with mode := m } : Lexer).size ≤ s.size := by
  simp only [size, hm]
  omega

/-- A quote that is opened counts when it is closed. -/
theorem size_openQuote {m : Mode} (hm : pending m = 0) (s : Lexer) :
    (s.openQuote m).size ≤ s.size := by
  simp only [size, openQuote, hm, Option.getD_some]
  omega

theorem size_emitOp (bs : List UInt8) (s : Lexer) : (s.emitOp bs).size ≤ s.size := by
  simp [size, emitOp, Token.size, pending]

/-- Outside of all quotes, a byte gives a byte of a word, or else none: the
    quotes never do. -/
theorem plainStep_cases (s : Lexer) (b : UInt8) :
    (s.plainStep b).size ≤ s.size ∨ (b ≠ 39 ∧ ∃ p, s.plainStep b = s.push p) := by
  rw [plainStep]
  split_ifs with h₁ h₂ h₃ h₄ h₅ h₆ h₇ h₈
  · exact .inl (size_openQuote rfl s)
  · exact .inl (size_openQuote rfl s)
  · exact .inl (size_setMode rfl s)
  · exact .inl ((size_emitOp _ _).trans (size_delimit_le _ s))
  · exact .inl ((size_setMode rfl _).trans (size_delimit_le _ s))
  · exact .inl (size_delimit_le _ s)
  · exact .inl (size_setMode rfl s)
  · exact .inr ⟨h₁, _, rfl⟩
  · exact .inr ⟨h₁, _, rfl⟩

/-- Outside of quotes, a byte adds no more than one. -/
theorem size_plainStep_le (s : Lexer) (b : UInt8) : (s.plainStep b).size ≤ s.size + 1 := by
  rcases plainStep_cases s b with h | ⟨-, p, h⟩
  · exact h.trans (Nat.le_succ _)
  · rw [h, size_push]

/-- A byte of the line gives at most one byte of a word. -/
theorem size_step_le (s : Lexer) (b : UInt8) : (s.step b).size ≤ s.size + 1 := by
  rw [step]
  cases hm : s.mode with
  | plain => exact size_plainStep_le s b
  | escape =>
    dsimp only
    split_ifs
    · exact (size_setMode rfl s).trans (Nat.le_succ _)
    · exact (size_setMode rfl _).trans (size_push _ s).le
  | single =>
    dsimp only
    split_ifs
    · exact (size_setMode rfl s).trans (Nat.le_succ _)
    · exact (size_push _ s).le
  | double =>
    dsimp only
    split_ifs
    · exact (size_setMode rfl s).trans (Nat.le_succ _)
    · simp [size, pending, hm]
    · exact (size_push _ s).le
    · exact (size_push _ s).le
  | doubleEscape =>
    -- A backslash that quotes nothing is a byte of the word, too.
    dsimp only
    split_ifs
    · exact (size_setMode rfl s).trans (Nat.le_succ _)
    · exact (size_setMode rfl _).trans (size_push _ s).le
    · simp only [size, push, hm, pending, Option.getD_some, List.length_append, List.length_singleton]
      omega
  | operator bs =>
    dsimp only
    split_ifs
    · exact (size_setMode rfl s).trans (Nat.le_succ _)
    · exact (size_plainStep_le _ b).trans (Nat.succ_le_succ (size_emitOp bs s))
  | comment =>
    dsimp only
    split_ifs
    · exact (size_emitOp _ s).trans (Nat.le_succ _)
    · exact Nat.le_succ _

/-- A line has no more in it than its bytes. -/
theorem size_foldl_le (s : Lexer) (l : List UInt8) : (l.foldl step s).size ≤ s.size + l.length := by
  induction l generalizing s with
  | nil => simp
  | cons b l ih =>
    have h := ih (s.step b)
    have hb := size_step_le s b
    simp only [List.foldl_cons, List.length_cons]
    omega

/-- A single quote met outside of all quotes gives no byte of a word. -/
theorem size_foldl_lt (hm : s.mode = .plain) {l : List UInt8} (hl : 39 ∈ l) :
    (l.foldl step s).size < s.size + l.length := by
  induction l generalizing s with
  | nil => cases hl
  | cons b l ih =>
    have hstep : s.step b = s.plainStep b := by rw [step, hm]
    simp only [List.foldl_cons, List.length_cons]
    rcases plainStep_cases s b with h | ⟨hb, p, h⟩
    · -- Whatever `b` is, it gave no byte: the rest gives at most its length.
      have := size_foldl_le (s.step b) l
      rw [hstep] at this ⊢
      omega
    · -- The byte is one of a word, so the quote is still to come.
      have hl' : 39 ∈ l := by
        rcases List.mem_cons.1 hl with rfl | hl
        · exact absurd rfl hb
        · exact hl
      have := ih (s := s.push p) hm hl'
      rw [hstep, h]
      rw [size_push] at this
      omega

/-! ## Earlier tokens -/

/-- The lexer after some earlier tokens. -/
def after (ts : List Token) (s : Lexer) : Lexer := { s with tokens := ts ++ s.tokens }

/-- Tokens before make no difference to a piece. -/
theorem push_after (p : Piece) (ts : List Token) (s : Lexer) :
    (s.after ts).push p = (s.push p).after ts := rfl

theorem emitOp_after (bs : List UInt8) (ts : List Token) (s : Lexer) :
    (s.after ts).emitOp bs = (s.emitOp bs).after ts := by
  simp [emitOp, after]

theorem delimit_after (r : Bool) (ts : List Token) (s : Lexer) :
    (s.after ts).delimit r = (s.delimit r).after ts := by
  rw [delimit, delimit, show (s.after ts).word = s.word from rfl]
  cases s.word <;> simp [after]

theorem plainStep_after (ts : List Token) (s : Lexer) (b : UInt8) :
    (s.after ts).plainStep b = (s.plainStep b).after ts := by
  simp only [plainStep, delimit_after, emitOp_after, push_after,
    show (s.after ts).word = s.word from rfl]
  split_ifs <;> rfl

/-- Reading on does not depend on the earlier tokens. -/
theorem step_after (ts : List Token) (s : Lexer) (b : UInt8) :
    (s.after ts).step b = (s.step b).after ts := by
  rw [step, step, show (s.after ts).mode = s.mode from rfl]
  cases s.mode <;> dsimp only
  case plain => exact plainStep_after ts s b
  case operator bs =>
    rw [emitOp_after, plainStep_after]
    split_ifs <;> rfl
  case comment =>
    rw [emitOp_after]
    split_ifs <;> rfl
  all_goals split_ifs <;> rfl

theorem foldl_after (ts : List Token) (s : Lexer) (l : List UInt8) :
    l.foldl step (s.after ts) = (l.foldl step s).after ts := by
  induction l generalizing s with
  | nil => rfl
  | cons b l ih => rw [List.foldl_cons, List.foldl_cons, step_after, ih]

/-! ## Quoted text -/

/-- Text without single quotes, between single quotes, stands for itself. -/
theorem foldl_single {l : List UInt8} (hl : 39 ∉ l) (ps : List Piece) (ts : List Token) :
    l.foldl step ⟨.single, some ps, ts⟩ = ⟨.single, some (ps ++ l.map .quoted), ts⟩ := by
  induction l generalizing ps with
  | nil => simp
  | cons b l ih =>
    simp only [List.mem_cons, not_or] at hl
    have hstep : step ⟨.single, some ps, ts⟩ b = ⟨.single, some (ps ++ [.quoted b]), ts⟩ := by
      simp [step, Ne.symm hl.1, push]
    rw [List.foldl_cons, hstep, ih hl.2]
    simp

/-- The lexer is between quotes that have to be closed. -/
def InQuotes (s : Lexer) : Prop := s.mode = .single ∨ s.mode = .double ∨ s.mode = .doubleEscape

/-- Text without quotes does not close any. -/
theorem inQuotes_foldl (hs : s.InQuotes) {l : List UInt8} (h₁ : 39 ∉ l) (h₂ : 34 ∉ l) :
    (l.foldl step s).InQuotes := by
  induction l generalizing s with
  | nil => exact hs
  | cons b l ih =>
    simp only [List.mem_cons, not_or] at h₁ h₂
    refine ih ?_ h₁.2 h₂.2
    rcases hs with hm | hm | hm <;> rw [step, hm] <;> dsimp only
    · rw [if_neg (Ne.symm h₁.1)]
      exact .inl hm
    · rw [if_neg (Ne.symm h₂.1)]
      split_ifs
      · exact .inr (.inr rfl)
      · exact .inr (.inl hm)
      · exact .inr (.inl hm)
    · split_ifs <;> exact .inr (.inl rfl)

/-- A line that ends within quotes is not complete. -/
theorem finish_of_inQuotes (hs : s.InQuotes) : s.finish = none := by
  rcases hs with hm | hm | hm <;> rw [finish, hm]

/-- A comment goes on to the end of the line. -/
theorem foldl_comment (hm : s.mode = .comment) {l : List UInt8} (hl : 10 ∉ l) :
    l.foldl step s = s := by
  induction l with
  | nil => rfl
  | cons b l ih =>
    simp only [List.mem_cons, not_or] at hl
    rw [List.foldl_cons, step, hm]
    dsimp only
    rw [if_neg (Ne.symm hl.1), ih hl.2]

/-- Where the lexer can be after a single quote. -/
theorem mode_step_quote (s : Lexer) :
    (s.step 39).mode = .plain ∨ (s.step 39).mode = .comment ∨ (s.step 39).InQuotes := by
  have hnot : ∀ bs : List UInt8, bs ++ [39] ∉ longOperators := by
    intro bs hbs
    have hlast : ∀ o ∈ longOperators, o.getLast? ≠ some 39 := by decide
    exact hlast _ hbs (by simp)
  rw [step]
  cases hm : s.mode with
  | plain => exact .inr (.inr (.inl rfl))
  | escape => exact .inl rfl
  | single => exact .inl rfl
  | double => exact .inr (.inr (.inr (.inl (by simp [push, hm]))))
  | doubleEscape =>
    dsimp only
    rw [if_neg (by decide), if_neg (by decide)]
    exact .inr (.inr (.inr (.inl rfl)))
  | operator bs =>
    dsimp only
    -- The operator ends, and the quote opens.
    rw [if_neg (hnot bs)]
    exact .inr (.inr (.inl rfl))
  | comment => exact .inr (.inl (by simp [hm]))

end Lexer

end Shell
