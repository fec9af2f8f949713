import Mathlib.Algebra.Order.Ring.Nat
import Mathlib.Data.Nat.Log

/-!
# Numerals in the order of texts

Decimal numerals of one length are ordered as texts as their values are, and a numeral
is before a longer one exactly if its value is at most that of as many digits at the
start of the longer one (`lt_append_iff`). So, of two numbers, the numeral of the
smaller one is the smaller text exactly if that number is not larger than the other
one cut to as many digits (`toDigits_lt_iff`).

* `value`: the number that a decimal text stands for, and `Nat.toDigits` its inverse;
* `lt_append_iff`: the order of texts of different lengths;
* `toDigits_lt_iff`: the order of the numerals of two numbers, by division.
-/

namespace Numeral

/-- The value of a text of digits. -/
def value (s : List Char) : ℕ := Nat.ofDigitChars 10 s 0

theorem value_cons (c : Char) (s : List Char) :
    value (c :: s) = (c.toNat - '0'.toNat) * 10 ^ s.length + value s := by
  rw [value, Nat.ofDigitChars_cons, Nat.ofDigitChars_eq_ofDigitChars_zero, value, Nat.mul_zero,
    Nat.zero_add, Nat.mul_comm]

/-- The digits of two numerals, one after the other. -/
theorem value_append (s t : List Char) :
    value (s ++ t) = value s * 10 ^ t.length + value t := by
  rw [value, Nat.ofDigitChars_append, Nat.ofDigitChars_eq_ofDigitChars_zero, value, value,
    Nat.mul_comm]

theorem toNat_of_isDigit {c : Char} (h : c.isDigit = true) : 48 ≤ c.toNat ∧ c.toNat ≤ 57 := by
  simp only [Char.isDigit, Bool.and_eq_true, decide_eq_true_eq] at h
  exact ⟨h.1, h.2⟩

/-- A numeral of `n` digits is below `10 ^ n`. -/
theorem value_lt {s : List Char} (hs : ∀ c ∈ s, c.isDigit = true) : value s < 10 ^ s.length := by
  induction s with
  | nil => decide
  | cons c s ih =>
    have hv := ih fun d hd => hs d (List.mem_cons_of_mem _ hd)
    obtain ⟨-, hc⟩ := toNat_of_isDigit (hs c List.mem_cons_self)
    have hdigit : c.toNat - '0'.toNat + 1 ≤ 10 := by
      simp only [Char.reduceToNat]
      omega
    calc value (c :: s) = (c.toNat - '0'.toNat) * 10 ^ s.length + value s := value_cons c s
      _ < (c.toNat - '0'.toNat + 1) * 10 ^ s.length := by rw [Nat.add_one_mul]; omega
      _ ≤ 10 * 10 ^ s.length := Nat.mul_le_mul_right _ hdigit
      _ = 10 ^ (c :: s).length := by rw [List.length_cons, Nat.pow_succ, Nat.mul_comm]

/-- Of two numbers with a last part below `N`, the smaller one has the smaller first
    part, or the same one and the smaller last part. -/
theorem mul_add_lt_iff {N x y v w : ℕ} (hv : v < N) (hw : w < N) :
    x * N + v < y * N + w ↔ x < y ∨ x = y ∧ v < w := by
  rcases lt_trichotomy x y with hxy | rfl | hxy
  · have := Nat.mul_le_mul_right N hxy
    rw [Nat.succ_mul] at this
    exact iff_of_true (by omega) (.inl hxy)
  · simp
  · have := Nat.mul_le_mul_right N hxy
    rw [Nat.succ_mul] at this
    exact iff_of_false (by omega) (by omega)

/-- Quotient and remainder are determined. -/
theorem mul_add_inj {N x y v w : ℕ} (hv : v < N) (hw : w < N) :
    x * N + v = y * N + w ↔ x = y ∧ v = w := by
  have hxy := mul_add_lt_iff (x := x) (y := y) hv hw
  have hyx := mul_add_lt_iff (x := y) (y := x) hw hv
  omega

/-- A numeral is before a text that starts with as many digits exactly if its value is
    below theirs, or the same and something follows them. -/
theorem lt_append_iff {s t u : List Char} (hs : ∀ c ∈ s, c.isDigit = true)
    (ht : ∀ c ∈ t, c.isDigit = true) (hlen : s.length = t.length) :
    s < t ++ u ↔ value s < value t ∨ value s = value t ∧ u ≠ [] := by
  induction s generalizing t with
  | nil =>
    obtain rfl := List.eq_nil_of_length_eq_zero hlen.symm
    cases u with
    | nil => simp
    | cons c u => simp
  | cons c s ih =>
    cases t with
    | nil => cases hlen
    | cons d t =>
      have hlen' : s.length = t.length := Nat.succ.inj hlen
      have hs' := fun b hb => hs b (List.mem_cons_of_mem _ hb)
      have ht' := fun b hb => ht b (List.mem_cons_of_mem _ hb)
      have hvs := value_lt hs'
      have hvt := value_lt ht'
      rw [← hlen'] at hvt
      obtain ⟨hc, -⟩ := toNat_of_isDigit (hs c List.mem_cons_self)
      obtain ⟨hd, -⟩ := toNat_of_isDigit (ht d List.mem_cons_self)
      -- The first digits decide, unless they are the same.
      have hlt : c < d ↔ c.toNat - '0'.toNat < d.toNat - '0'.toNat := by
        rw [Char.lt_def, UInt32.lt_iff_toNat_lt]
        exact (Nat.sub_lt_sub_iff_right hc).symm
      have heq : c = d ↔ c.toNat - '0'.toNat = d.toNat - '0'.toNat := by
        rw [← Char.toNat_inj]
        simp only [Char.reduceToNat]
        omega
      rw [List.cons_append, List.cons_lt_cons_iff, ih hs' ht' hlen', value_cons, value_cons,
        ← hlen', mul_add_lt_iff hvs hvt, mul_add_inj hvs hvt, hlt, heq, or_assoc, and_or_left,
        and_assoc]

/-- The number of digits. -/
theorem length_toDigits (n : ℕ) : (Nat.toDigits 10 n).length = Nat.log 10 n + 1 := by
  refine le_antisymm ?_ ?_
  · rw [Nat.length_toDigits_le_iff (by decide) (Nat.succ_pos _)]
    exact Nat.lt_pow_succ_log_self (by decide) n
  · rw [Nat.succ_le_iff]
    by_contra hlen
    rw [not_lt] at hlen
    rcases Nat.eq_zero_or_pos (Nat.log 10 n) with hlog | hlog
    · rw [hlog, Nat.le_zero] at hlen
      exact Nat.toDigits_ne_nil (List.eq_nil_of_length_eq_zero hlen)
    · rw [Nat.length_toDigits_le_iff (by decide) hlog] at hlen
      refine absurd (Nat.pow_log_le_self 10 ?_) (not_le.2 hlen)
      rintro rfl
      simp at hlog

/-- The numeral of the smaller one of two numbers is the smaller text exactly if the
    number is at most the other one, cut to as many digits. -/
theorem toDigits_lt_iff {a b : ℕ} (hab : a < b) :
    Nat.toDigits 10 a < Nat.toDigits 10 b ↔ a ≤ b / 10 ^ (Nat.log 10 b - Nat.log 10 a) := by
  have hdigit : ∀ n, ∀ c ∈ Nat.toDigits 10 n, c.isDigit = true := fun n c hc =>
    Nat.isDigit_of_mem_toDigits (by decide) (by decide) hc
  have hlog : Nat.log 10 a ≤ Nat.log 10 b := Nat.log_mono_right hab.le
  -- The digits of `b` are as many as those of `a`, and the rest.
  obtain ⟨t, u, htu, htlen⟩ : ∃ t u, Nat.toDigits 10 b = t ++ u ∧
      (Nat.toDigits 10 a).length = t.length := by
    refine ⟨_, _, (List.take_append_drop (Nat.log 10 a + 1) _).symm, ?_⟩
    rw [List.length_take, length_toDigits, length_toDigits]
    omega
  have hulen : u.length = Nat.log 10 b - Nat.log 10 a := by
    have hlen := congrArg List.length htu
    rw [length_toDigits, List.length_append, ← htlen, length_toDigits] at hlen
    omega
  have ht : ∀ c ∈ t, c.isDigit = true := fun c hc =>
    hdigit b c (htu ▸ List.mem_append_left _ hc)
  have hvu := value_lt fun c hc => hdigit b c (htu ▸ List.mem_append_right t hc)
  have hvalue : ∀ n, value (Nat.toDigits 10 n) = n := fun n => Nat.ofDigitChars_ten_toDigits
  have hb : b = value t * 10 ^ u.length + value u := by rw [← value_append, ← htu, hvalue]
  have hdiv : b / 10 ^ u.length = value t := by
    rw [hb, Nat.mul_comm, Nat.mul_add_div (Nat.pow_pos (by decide)), Nat.div_eq_of_lt hvu,
      Nat.add_zero]
  rw [htu, lt_append_iff (hdigit a) ht htlen, hvalue, ← hulen, hdiv]
  by_cases hnil : u = []
  · -- Then the numbers have as many digits.
    rw [hnil] at hb
    have hbt : b = value t := by simpa [value] using hb
    omega
  · rw [and_iff_left hnil, le_iff_lt_or_eq]

end Numeral
