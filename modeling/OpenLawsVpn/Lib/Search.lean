import Mathlib.Data.List.Basic
import Mathlib.Data.List.Infix

/-!
# Substring search

The position of the first occurrence of a pattern in a list (`find`), as string
libraries define it, and what it is good for: cutting a text at a delimiter
(`find_singleton`), skipping a part in which the pattern cannot start
(`find_skip`), and reading off that a pattern occurs at all
(`find_eq_none_iff`).

The second half is about occurrences (`<:+:`) in texts put together from known
and unknown parts: when an occurrence cannot reach over the seam between two
parts, it lies in one of them.

* `find_of_prefix`, `find_skip`, `findFrom_append`: computing a position part by part;
* `append_cons_inj`: a text has one first occurrence of a symbol;
* `infix_append_cons_iff`, `infix_append_left_iff`, `infix_append_right_iff`: the three ways in
  which a seam cannot be reached over;
* `OnlyWithin`: a word occurs only as a part of longer words.
-/

namespace Search

variable {α : Type*}

section Find

variable [DecidableEq α]

/-- The position of the first occurrence of `pat` in a text. -/
def find (pat : List α) : List α → Option ℕ
  | [] => if pat = [] then some 0 else none
  | a :: l => if pat <+: a :: l then some 0 else (find pat l).map (· + 1)

/-- The position of the first occurrence of `pat` in `l` that starts at `pos`
    or later. -/
def findFrom (pat l : List α) (pos : ℕ) : Option ℕ :=
  if pos ≤ l.length then (find pat (l.drop pos)).map (· + pos) else none

/-- What a list starts with is found at its start. -/
theorem find_of_prefix {pat l : List α} (h : pat <+: l) : find pat l = some 0 := by
  cases l with
  | nil => simp [find, List.prefix_nil.1 h]
  | cons a l => simp [find, h]

/-- A pattern is not found exactly when it does not occur. -/
theorem find_eq_none_iff {pat l : List α} : find pat l = none ↔ ¬pat <:+: l := by
  induction l with
  | nil => simp [find, List.infix_nil]
  | cons a l ih =>
    rw [find, List.infix_cons_iff]
    split_ifs with h
    · simp [h]
    · simp [h, ih]

/-- A pattern found is a pattern that occurs there. -/
theorem find_eq_some {pat l : List α} {i : ℕ} (h : find pat l = some i) :
    ∃ pre post, l = pre ++ pat ++ post ∧ pre.length = i := by
  induction l generalizing i with
  | nil =>
    rw [find] at h
    split_ifs at h with hp
    exact ⟨[], [], by simp [hp], by simpa using h⟩
  | cons a l ih =>
    rw [find] at h
    split_ifs at h with hp
    · obtain ⟨post, hpost⟩ := hp
      exact ⟨[], post, by simp [hpost], by simpa using h⟩
    · obtain ⟨j, hj, rfl⟩ := Option.map_eq_some_iff.1 h
      obtain ⟨pre, post, rfl, rfl⟩ := ih hj
      exact ⟨a :: pre, post, by simp, by simp⟩

/-- A part in which the pattern does not start is skipped. -/
theorem find_skip {pat pre l : List α}
    (h : ∀ s, s <:+ pre → s ≠ [] → ¬pat <+: s ++ l) :
    find pat (pre ++ l) = (find pat l).map (· + pre.length) := by
  induction pre with
  | nil => simp
  | cons a pre ih =>
    have hpre := ih fun s hs => h s (hs.trans (List.suffix_cons a pre))
    rw [List.cons_append, find, if_neg (by simpa using h (a :: pre) List.suffix_rfl (by simp)), hpre,
      Option.map_map]
    congr 1

/-- The first occurrence of a symbol is where the text before it has none. -/
theorem find_singleton {c : α} {pre post : List α} (h : c ∉ pre) :
    find [c] (pre ++ c :: post) = some pre.length := by
  rw [find_skip, find_of_prefix (by simp), Option.map_some, Nat.zero_add]
  intro s hs hne hp
  obtain ⟨a, s, rfl⟩ := List.exists_cons_of_ne_nil hne
  simp only [List.cons_append, List.cons_prefix_cons] at hp
  exact h (hp.1 ▸ hs.subset List.mem_cons_self)

/-- A single element is not found exactly if it is not there. -/
theorem find_singleton_eq_none_iff {c : α} {l : List α} : find [c] l = none ↔ c ∉ l := by
  rw [find_eq_none_iff, List.singleton_infix_iff]

/-- A text has one first occurrence of a symbol. -/
theorem append_cons_inj {c : α} {a a' b b' : List α} (ha : c ∉ a) (ha' : c ∉ a')
    (h : a ++ c :: b = a' ++ c :: b') : a = a' ∧ b = b' := by
  have hlen : a.length = a'.length :=
    Option.some.inj ((find_singleton ha).symm.trans (h ▸ find_singleton ha'))
  obtain ⟨ha, hb⟩ := List.append_inj h hlen
  exact ⟨ha, (List.cons.inj hb).2⟩

/-- Searching on from the end of a known part is searching the rest. -/
theorem findFrom_append {pat pre l : List α} :
    findFrom pat (pre ++ l) pre.length = (find pat l).map (· + pre.length) := by
  simp [findFrom]

end Find

/-! ## Occurrences over a seam -/

/-- An occurrence does not reach over a symbol it does not have. -/
theorem infix_append_cons_iff {pat l r : List α} {x : α} (hx : x ∉ pat) :
    pat <:+: l ++ x :: r ↔ pat <:+: l ∨ pat <:+: r := by
  rw [List.infix_append_iff_ne_nil]
  constructor
  · rintro (h | h | ⟨p, q, hp, hq, rfl, hl, hr⟩)
    · exact .inl h
    · rcases List.infix_cons_iff.1 h with h | h
      · cases pat with
        | nil => exact .inl (List.nil_infix)
        | cons a pat => exact absurd (List.cons_prefix_cons.1 h).1 (by rintro rfl; simp at hx)
      · exact .inr h
    · obtain ⟨b, q, rfl⟩ := List.exists_cons_of_ne_nil hq
      obtain ⟨rfl, -⟩ := List.cons_prefix_cons.1 hr
      simp at hx
  · rintro (h | h)
    · exact .inl h
    · exact .inr (.inl (List.infix_cons h))

/-- An occurrence ends before a part that does not have its last symbol. -/
theorem infix_append_right_iff {pat l r : List α} {x : α} (hx : x ∉ r) :
    pat ++ [x] <:+: l ++ r ↔ pat ++ [x] <:+: l := by
  rw [List.infix_append_iff_ne_nil]
  constructor
  · rintro (h | h | ⟨p, q, -, hq, he, -, hr⟩)
    · exact h
    · exact absurd (h.subset (by simp)) hx
    · -- The last symbol of the pattern is the last one of the part reaching over.
      obtain ⟨q, y, rfl⟩ := List.eq_nil_or_concat q |>.resolve_left hq
      rw [List.concat_eq_append, ← List.append_assoc] at he
      obtain rfl := List.singleton_inj.1 (List.append_inj' he rfl).2
      exact absurd (hr.subset (by simp)) hx
  · exact .inl

/-- An occurrence starts after a part that does not have its first symbol. -/
theorem infix_append_left_iff {pat l r : List α} {x : α} (hx : x ∉ l) :
    x :: pat <:+: l ++ r ↔ x :: pat <:+: r := by
  induction l with
  | nil => simp
  | cons a l ih =>
    simp only [List.mem_cons, not_or] at hx
    rw [List.cons_append, List.infix_cons_iff, ih hx.2, List.cons_prefix_cons]
    simp [hx.1]

/-- Each occurrence of one of the words is part of an occurrence of a longer one. -/
def OnlyWithin (words longer : List (List α)) (s : List α) : Prop :=
  ∀ word ∈ words, ∀ k ≤ s.length, word <+: s.drop k →
    ∃ w ∈ longer, ∃ j ≤ k, w <+: s.drop j ∧ k + word.length ≤ j + w.length

instance [DecidableEq α] (words longer : List (List α)) (s : List α) :
    Decidable (OnlyWithin words longer s) :=
  inferInstanceAs (Decidable (∀ word ∈ words, ∀ k ≤ s.length, word <+: s.drop k →
    ∃ w ∈ longer, ∃ j ≤ k, w <+: s.drop j ∧ k + word.length ≤ j + w.length))

/-- What occurs within a prefix is part of it. -/
theorem infix_of_prefix_drop {word w s : List α} {i : ℕ} (hw : w <+: s) (hword : word <+: s.drop i)
    (hlen : i + word.length ≤ w.length) : word <:+: w := by
  obtain ⟨r, rfl⟩ := hw
  rw [List.drop_append_of_le_length (by omega)] at hword
  have hpre : word <+: w.drop i :=
    List.prefix_of_prefix_length_le hword (List.prefix_append _ _) (by
      rw [List.length_drop]
      omega)
  exact hpre.isInfix.trans (List.drop_suffix i w).isInfix

/-- A word found is part of a longer one found. -/
theorem OnlyWithin.exists_infix {words longer : List (List α)} {s : List α}
    (h : OnlyWithin words longer s) {word : List α} (hword : word ∈ words) (hs : word <:+: s) :
    ∃ w ∈ longer, word <:+: w ∧ w <:+: s := by
  obtain ⟨pre, post, rfl⟩ := hs
  have hpre : word <+: (pre ++ word ++ post).drop pre.length := by
    rw [List.append_assoc, List.drop_left]
    exact List.prefix_append word post
  obtain ⟨w, hw, j, hj, hwj, hlen⟩ := h word hword pre.length (by simp) hpre
  refine ⟨w, hw, infix_of_prefix_drop (i := pre.length - j) hwj ?_ (by omega),
    hwj.isInfix.trans (List.drop_suffix _ _).isInfix⟩
  rwa [List.drop_drop, Nat.add_sub_cancel' hj]

end Search
