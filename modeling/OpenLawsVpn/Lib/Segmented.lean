import Mathlib.Data.List.Infix
import Mathlib.Algebra.Order.Group.Nat

/-!
# Segmented streams

A stream arrives in segments, of any sizes. Reading up to a delimiter
(`readUntil`) takes whole segments into a buffer until the delimiter is in it,
so it takes more than asked for: what the last segment brings after the
delimiter (`overread`). Reading an exact number of bytes (`readExactly`) does
not depend on the segments.

When the head of a stream ends with the first delimiter, reading up to it gives
the head and the overread part of what follows (`readUntil_eq`).

* `readUntil`, `readExactly`: the two ways of reading, with what is left of the segments;
* `overread`: the bytes after the delimiter that come with its segment;
* `readUntil_eq`: reading the head of a stream, for all segmentations.
-/

namespace Segmented

variable {α : Type*} [DecidableEq α]

/-- Reading segments into the buffer until the delimiter is in it; `none` when
    the stream ends before. -/
def readUntil (delim : List α) (buf : List α) : List (List α) → Option (List α × List (List α))
  | [] => if delim <:+: buf then some (buf, []) else none
  | c :: cs => if delim <:+: buf then some (buf, c :: cs) else readUntil delim (buf ++ c) cs

omit [DecidableEq α] in
/-- Reading exactly `n` bytes of the segments left; `none` when the stream ends
    before. -/
def readExactly (n : ℕ) (segments : List (List α)) : Option (List α) :=
  if n ≤ segments.flatten.length then some (segments.flatten.take n) else none

omit [DecidableEq α] in
/-- What the segment bringing the byte number `n` brings after it. -/
def overread : ℕ → List (List α) → ℕ
  | _, [] => 0
  | n, c :: cs => if n ≤ c.length then c.length - n else overread (n - c.length) cs

/-- When the delimiter is buffered, nothing more is read. -/
theorem readUntil_of_found {delim buf : List α} (h : delim <:+: buf) (segments : List (List α)) :
    readUntil delim buf segments = some (buf, segments) := by
  cases segments <;> simp [readUntil, h]

omit [DecidableEq α] in
/-- A segment that completes the head goes on for as many bytes as are left of it. -/
theorem exists_overread {head rest buf c : List α} {tail : List α}
    (hstream : buf ++ c ++ tail = head ++ rest) (hbuf : buf.length < head.length)
    (hc : head.length - buf.length ≤ c.length) :
    ∃ r, head ++ r = buf ++ c ∧ r ++ tail = rest ∧
      c.length - (head.length - buf.length) = r.length := by
  have hle : head.length ≤ (buf ++ c).length := by
    rw [List.length_append]
    omega
  obtain ⟨r, hr⟩ := List.prefix_of_prefix_length_le (List.prefix_append head rest)
    ⟨_, hstream⟩ hle
  refine ⟨r, hr, ?_, ?_⟩
  · rwa [← hr, List.append_assoc, List.append_cancel_left_eq] at hstream
  · have hlength := congrArg List.length hr
    simp only [List.length_append] at hlength
    omega

/-- Reading on, with a part of the head in the buffer, gives the head and the
    part overread. -/
theorem readUntil_append {delim head rest buf : List α} {segments : List (List α)}
    (hdelim : delim <:+: head) (hfirst : ¬delim <:+: head.dropLast)
    (hstream : buf ++ segments.flatten = head ++ rest) (hbuf : buf.length < head.length) :
    ∃ segments', readUntil delim buf segments =
        some (head ++ rest.take (overread (head.length - buf.length) segments), segments') ∧
      segments'.flatten = rest.drop (overread (head.length - buf.length) segments) ∧
      overread (head.length - buf.length) segments ≤ rest.length := by
  induction segments generalizing buf with
  | nil =>
    -- The stream does not end within the head.
    have := congrArg List.length hstream
    simp only [List.flatten_nil, List.append_nil, List.length_append] at this
    omega
  | cons c cs ih =>
    have hpre : buf <+: head :=
      List.prefix_of_prefix_length_le ⟨_, hstream⟩ (List.prefix_append head rest) hbuf.le
    -- What is buffered is a proper part of the head, so the delimiter is not in it.
    have hnot : ¬delim <:+: buf := fun h => by
      refine hfirst (h.trans (List.IsPrefix.isInfix ?_))
      exact List.prefix_of_prefix_length_le hpre (List.dropLast_prefix head)
        (by rw [List.length_dropLast]; omega)
    have hstream' : buf ++ c ++ cs.flatten = head ++ rest := by
      rw [← hstream, List.flatten_cons, List.append_assoc]
    rw [readUntil, if_neg hnot, overread]
    split_ifs with hc
    · -- The segment completes the head, and goes on for some bytes.
      obtain ⟨r, hr, hrest, hlength⟩ := exists_overread hstream' hbuf hc
      refine ⟨cs, ?_, ?_, ?_⟩
      · rw [readUntil_of_found (hr ▸ hdelim.trans (List.prefix_append head r).isInfix), hlength,
          ← hr, ← hrest, List.take_left]
      · rw [hlength, ← hrest, List.drop_left]
      · rw [hlength, ← hrest, List.length_append]
        omega
    · -- The segment stays within the head.
      have hlt : (buf ++ c).length < head.length := by
        rw [List.length_append]
        omega
      have hsub : head.length - buf.length - c.length = head.length - (buf ++ c).length := by
        rw [List.length_append]
        omega
      rw [hsub]
      exact ih hstream' hlt

/-- Reading up to the first delimiter, at the end of the head of the stream,
    gives the head and the part overread. -/
theorem readUntil_eq {delim head rest : List α} {segments : List (List α)}
    (hdelim : delim <:+: head) (hfirst : ¬delim <:+: head.dropLast) (hne : head ≠ [])
    (hstream : segments.flatten = head ++ rest) :
    ∃ segments', readUntil delim [] segments =
        some (head ++ rest.take (overread head.length segments), segments') ∧
      segments'.flatten = rest.drop (overread head.length segments) ∧
      overread head.length segments ≤ rest.length :=
  readUntil_append hdelim hfirst hstream (List.length_pos_iff.2 hne)

end Segmented
