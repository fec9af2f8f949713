import Mathlib.Data.List.Infix
import Mathlib.Algebra.Order.Group.Nat

/-!
# Latches

A flag that is set by an event and stays set is a property of the history of
inputs: a *latch*, which holds after a history as soon as it holds after a part
of it.

* An event that has to come after another one is a latch
  (`pair_sublist_append`).
* Two latches that no input sets together agree after each part of a history
  exactly if neither is set, or both were set from the start (`agree_iff`).

* `Stays`: a property of histories that later inputs keep;
* `agree_iff`: the criterion for two latches;
* `pair_sublist_append_cons`: all that follows an occurrence of the first event comes after it.
-/

namespace Latch

variable {ι : Type*}

/-- A property of the history which stays when it holds. -/
def Stays (P : List ι → Prop) : Prop := ∀ l i, P l → P (l ++ [i])

/-- What stays once it holds, holds of every longer list. -/
theorem Stays.of_prefix {P : List ι → Prop} (h : Stays P) {l l' : List ι} (hl : l <+: l')
    (hP : P l) : P l' := by
  obtain ⟨r, rfl⟩ := hl
  induction r using List.reverseRecOn with
  | nil => simpa using hP
  | append_singleton r i ih =>
    rw [← List.append_assoc]
    exact h _ i ih

/-- An event after another one: the second one comes last, or before. -/
theorem pair_sublist_append {a b x : ι} {l : List ι} :
    List.Sublist [a, b] (l ++ [x]) ↔ List.Sublist [a, b] l ∨ a ∈ l ∧ b = x := by
  rw [List.sublist_append_iff]
  constructor
  · rintro ⟨l₁, l₂, h, h₁, h₂⟩
    rcases List.sublist_singleton.1 h₂ with rfl | rfl
    · rw [List.append_nil] at h
      exact .inl (h ▸ h₁)
    · obtain ⟨rfl, hb⟩ := List.append_inj' (show [a] ++ [b] = l₁ ++ [x] from h) rfl
      exact .inr ⟨List.singleton_sublist.1 h₁, List.singleton_inj.1 hb⟩
  · rintro (h | ⟨ha, rfl⟩)
    · exact ⟨[a, b], [], by simp, h, by simp⟩
    · exact ⟨[a], [b], rfl, by simpa using ha, List.Sublist.refl _⟩

/-- All that comes after an occurrence of the first event comes after it. -/
theorem pair_sublist_append_cons {a b : ι} {l r : List ι} (hne : b ≠ a) :
    List.Sublist [a, b] (l ++ a :: r) ↔ List.Sublist [a, b] l ∨ b ∈ r := by
  induction r using List.reverseRecOn with
  | nil => simp [pair_sublist_append, hne]
  | append_singleton r x ih =>
    rw [← List.cons_append, ← List.append_assoc, pair_sublist_append, ih, or_assoc]
    simp

/-- Two latches which are never set by the same input agree after each part of
    the history exactly if none is set in the end, or both in the beginning. -/
theorem agree_iff {P Q : List ι → Prop} (hP : Stays P) (hQ : Stays Q)
    (hone : ∀ l i, (P (l ++ [i]) → P l) ∨ (Q (l ++ [i]) → Q l)) (later : List ι) :
    (∀ l, l <+: later → (P l ↔ Q l)) ↔ (P later ∨ Q later → P [] ∧ Q []) := by
  constructor
  · intro hagree hset
    have hboth : P later ∧ Q later := by
      have := hagree later List.prefix_rfl
      tauto
    clear hset
    induction later using List.reverseRecOn with
    | nil => exact hboth
    | append_singleton l i ih =>
      -- One of the two was set before the last input, and the other one agreed.
      have hl := hagree l (List.prefix_append l [i])
      have hboth' : P l ∧ Q l := by
        rcases hone l i with h | h
        · exact ⟨h hboth.1, hl.1 (h hboth.1)⟩
        · exact ⟨hl.2 (h hboth.2), h hboth.2⟩
      exact ih (fun l' hl' => hagree l' (hl'.trans (List.prefix_append l [i]))) hboth'
  · intro hstart l hl
    by_cases hset : P later ∨ Q later
    · obtain ⟨hp, hq⟩ := hstart hset
      exact iff_of_true (hP.of_prefix List.nil_prefix hp) (hQ.of_prefix List.nil_prefix hq)
    · exact iff_of_false (fun h => hset (.inl (hP.of_prefix hl h)))
        fun h => hset (.inr (hQ.of_prefix hl h))

end Latch
