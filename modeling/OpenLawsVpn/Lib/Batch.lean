import Mathlib.Data.List.Infix

/-!
# Batches

A loop takes its inputs in batches, handles each batch completely, and ends when
the state has decided. How the inputs are cut into batches is a matter of timing.

The loop handles a prefix of the inputs that has decided, and every such prefix is
handled for some cut. So a property of its result does not depend on the cut
exactly if it is the same after all prefixes that have decided (`agree_iff`).

* `untilDecided`: the state after the batches, as far as they are taken;
* `decided_untilDecided`: inputs that decide do so for every cut;
* `agree_iff`: the criterion, which reduces a statement about all cuts to one about prefixes.
-/

namespace Batch

variable {σ ι : Type*} (step : σ → ι → σ) (decided : σ → Bool)

/-- The state in which the loop ends, or runs out of batches. -/
def untilDecided : σ → List (List ι) → σ
  | s, [] => s
  | s, batch :: batches =>
    if decided (batch.foldl step s) then batch.foldl step s
    else untilDecided (batch.foldl step s) batches

/-- The loop handles a prefix of the inputs: one that has decided, or all of them. -/
theorem exists_prefix (s : σ) (batches : List (List ι)) :
    ∃ l, l <+: batches.flatten ∧ untilDecided step decided s batches = l.foldl step s ∧
      (decided (l.foldl step s) = true ∨ l = batches.flatten) := by
  induction batches generalizing s with
  | nil => exact ⟨[], List.nil_prefix, rfl, .inr rfl⟩
  | cons batch batches ih =>
    rw [untilDecided, List.flatten_cons]
    split_ifs with h
    · exact ⟨batch, List.prefix_append _ _, rfl, .inl h⟩
    · obtain ⟨l, hl, heq, hend⟩ := ih (batch.foldl step s)
      refine ⟨batch ++ l, (List.prefix_append_right_inj batch).2 hl, ?_, ?_⟩
      · rw [heq, List.foldl_append]
      · rw [List.foldl_append]
        exact hend.imp_right fun h => by rw [h]

variable {step decided}

/-- A prefix that has decided is handled when it is the first batch. -/
theorem untilDecided_pair {s : σ} {l : List ι} (h : decided (l.foldl step s) = true) (r : List ι) :
    untilDecided step decided s [l, r] = l.foldl step s := by
  rw [untilDecided, if_pos h]

/-- Decided inputs are decided for every cut. -/
theorem decided_untilDecided {s : σ} {batches : List (List ι)}
    (h : decided (batches.flatten.foldl step s) = true) :
    decided (untilDecided step decided s batches) = true := by
  obtain ⟨l, -, heq, hend⟩ := exists_prefix step decided s batches
  rw [heq]
  rcases hend with hend | rfl
  · exact hend
  · exact h

/-- The result does not depend on the cut exactly if it is the same after all
    prefixes that have decided. -/
theorem agree_iff {Q : σ → Prop} {s : σ} {w : List ι} (hw : decided (w.foldl step s) = true) :
    (∀ b b' : List (List ι), b.flatten = w → b'.flatten = w →
        (Q (untilDecided step decided s b) ↔ Q (untilDecided step decided s b'))) ↔
      ∀ l l', l <+: w → l' <+: w → decided (l.foldl step s) = true →
        decided (l'.foldl step s) = true → (Q (l.foldl step s) ↔ Q (l'.foldl step s)) := by
  constructor
  · rintro h l l' ⟨r, hr⟩ ⟨r', hr'⟩ hl hl'
    rw [← untilDecided_pair hl r, ← untilDecided_pair hl' r']
    exact h [l, r] [l', r'] (by simpa using hr) (by simpa using hr')
  · rintro h b b' rfl hb'
    obtain ⟨l, hl, heq, hend⟩ := exists_prefix step decided s b
    obtain ⟨l', hl', heq', hend'⟩ := exists_prefix step decided s b'
    rw [heq, heq']
    rw [hb'] at hl' hend'
    have hdecided : ∀ l, decided (l.foldl step s) = true ∨ l = b.flatten →
        decided (l.foldl step s) = true := by
      rintro l (hend | rfl)
      · exact hend
      · exact hw
    exact h l l' hl hl' (hdecided l hend) (hdecided l' hend')

end Batch
