import Mathlib.Algebra.Order.Group.Nat
import Mathlib.Data.List.Infix

/-!
# Decoding UTF-8

A decoder that never fails: a sequence of bytes that is not well formed is
decoded to the replacement character, once for each longest part of it that
could have been the start of a character, as the standard decoders do (`decode`).
It is a machine reading one byte at a time; its state (`State`) is what the next
byte has to be to continue a character.

Bytes below 128 stand for themselves, and end whatever is before them: the
decoding of a text can be cut at them (`decode_ascii_append`,
`decode_append_ascii`). A character below 128 stands for no other byte
(`mem_of_mem_decode`).

A text that is encoded (`encode`) is decoded to itself (`decode_encode`), so a text
of bytes is well formed if its decoding is encoded to it (`decode?`).

* `decode_two`, `decode_three`, `decode_four`: the characters of more than one byte;
* `decode_append_ascii`, `decode_ascii_append`, `mem_of_mem_decode`, `mem_of_mem_encode`: the
  bytes below 128, for cutting texts;
* `decode_encode`, `isSome_decode?_ascii`, `isSome_decode?_append`: the texts that are well formed;
* `prefix_of_encode_prefix`: a part of an encoded text is encoded from a part.
-/

namespace Utf8

/-- Between two characters, or in the middle of one: the number of bytes left, the
    range of the next one, which is beyond the bytes standing for themselves, and
    the bits collected. -/
inductive State
  | start
  | inside (left : ℕ) (lower upper : UInt8) (bits : ℕ) (h : 0x80 ≤ lower)
  deriving DecidableEq, Repr

/-- The replacement character. -/
def replacement : Char := '\uFFFD'

/-- A byte between two characters. -/
def stepStart (b : UInt8) : List Char × State :=
  if b < 0x80 then ([Char.ofNat b.toNat], .start)
  else if b < 0xC2 then ([replacement], .start)
  else if b < 0xE0 then ([], .inside 1 0x80 0xBF (b.toNat - 0xC0) (by decide))
  else if b < 0xF0 then
    ([], .inside 2 (if b = 0xE0 then 0xA0 else 0x80) (if b = 0xED then 0x9F else 0xBF)
      (b.toNat - 0xE0) (by split <;> decide))
  else if b < 0xF5 then
    ([], .inside 3 (if b = 0xF0 then 0x90 else 0x80) (if b = 0xF4 then 0x8F else 0xBF)
      (b.toNat - 0xF0) (by split <;> decide))
  else ([replacement], .start)

/-- A byte: the characters it completes, and the next state. -/
def step : State → UInt8 → List Char × State
  | .start, b => stepStart b
  | .inside left lower upper bits _, b =>
    if lower ≤ b ∧ b ≤ upper then
      let bits := bits * 64 + (b.toNat - 0x80)
      if left ≤ 1 then ([Char.ofNat bits], .start) else ([], .inside (left - 1) 0x80 0xBF bits (by decide))
    else
      -- The byte does not continue the character: it is read anew.
      let (chars, state) := stepStart b
      (replacement :: chars, state)

/-- The end of the text. -/
def finish : State → List Char
  | .start => []
  | .inside .. => [replacement]

/-- The characters of a text, from a state on. -/
def decode : State → List UInt8 → List Char
  | state, [] => finish state
  | state, b :: s => (step state b).1 ++ decode (step state b).2 s

theorem decode_cons (state : State) (b : UInt8) (s : List UInt8) :
    decode state (b :: s) = (step state b).1 ++ decode (step state b).2 s := rfl

theorem step_ascii {b : UInt8} (hb : b < 0x80) :
    step .start b = ([Char.ofNat b.toNat], .start) := by
  rw [step, stepStart, if_pos hb]

/-- Bytes below 128 at the start of a text stand for themselves. -/
theorem decode_ascii_append {a : List UInt8} (ha : ∀ b ∈ a, b < 0x80) (s : List UInt8) :
    decode .start (a ++ s) = a.map (fun b => Char.ofNat b.toNat) ++ decode .start s := by
  induction a with
  | nil => rfl
  | cons b a ih =>
    rw [List.cons_append, decode, step_ascii (ha b List.mem_cons_self),
      ih fun b hb => ha b (List.mem_cons_of_mem _ hb)]
    rfl

/-- The decoding can be cut at a byte below 128. -/
theorem decode_append_ascii (state : State) (s : List UInt8) {b : UInt8} (hb : b < 0x80)
    (t : List UInt8) :
    decode state (s ++ b :: t) = decode state s ++ Char.ofNat b.toNat :: decode .start t := by
  induction s generalizing state with
  | nil =>
    cases state with
    | start =>
      exact decode_ascii_append (a := [b]) (by simpa using hb) t
    | inside left lower upper bits h =>
      -- The byte is out of the range, so it is read anew.
      have hnot : ¬(lower ≤ b ∧ b ≤ upper) := fun hrange =>
        absurd (UInt8.le_trans h hrange.1) (UInt8.not_le.2 hb)
      have hstep : step (.inside left lower upper bits h) b =
          ([replacement, Char.ofNat b.toNat], .start) := by
        simp only [step, if_neg hnot, stepStart, if_pos hb]
      rw [List.nil_append, decode_cons, hstep]
      rfl
  | cons c s ih => rw [List.cons_append, decode, decode, ih, List.append_assoc]

/-! ## Characters of several bytes -/

/-- The bits collected are the start of a character beyond 127, which is valid. -/
def State.Sound : State → Prop
  | .start => True
  | .inside left lower upper bits _ => upper ≤ 0xBF ∧
    (left = 1 ∧ 2 ≤ bits ∧ bits < 0x4400 ∧ (bits < 0x360 ∨ 0x380 ≤ bits) ∨
      left = 2 ∧ bits < 0x110 ∧ (bits = 0 → 0xA0 ≤ lower) ∧ (bits = 0xD → upper ≤ 0x9F) ∨
      left = 3 ∧ bits ≤ 4 ∧ (bits = 0 → 0x90 ≤ lower) ∧ (bits = 4 → upper ≤ 0x8F))

/-- The number of a character is the one that it was made of. -/
theorem toNat_ofNat {n : ℕ} (h : n.isValidChar) : (Char.ofNat n).toNat = n := by
  rw [Char.ofNat, dif_pos h]
  rfl

/-- A byte between two characters: one below 128 stands for itself, and any other
    one for none below 128. -/
theorem stepStart_sound (b : UInt8) :
    (stepStart b).2.Sound ∧ ∀ c ∈ (stepStart b).1, c.toNat < 0x80 →
      b < 0x80 ∧ c = Char.ofNat b.toNat := by
  -- The replacement character stands for no byte below 128.
  have hreplacement : ∀ c ∈ [replacement], c.toNat < 0x80 → b < 0x80 ∧ c = Char.ofNat b.toNat := by
    intro c hc hlt
    rw [List.mem_singleton.1 hc] at hlt
    exact absurd hlt (by decide)
  rw [stepStart]
  by_cases h₁ : b < 0x80
  · rw [if_pos h₁]
    exact ⟨trivial, fun c hc _ => ⟨h₁, List.mem_singleton.1 hc⟩⟩
  rw [if_neg h₁]
  by_cases h₂ : b < 0xC2
  · rw [if_pos h₂]
    exact ⟨trivial, hreplacement⟩
  rw [if_neg h₂]
  have hlt := b.toNat_lt
  simp only [UInt8.lt_iff_toNat_lt, UInt8.reduceToNat] at h₁ h₂ ⊢
  -- From here on the bounds are on the value of the byte, for `omega`.
  by_cases h₃ : b.toNat < 0xE0
  · rw [if_pos h₃]
    exact ⟨⟨by decide, .inl ⟨rfl, by omega⟩⟩, fun c hc => absurd hc List.not_mem_nil⟩
  rw [if_neg h₃]
  by_cases h₄ : b.toNat < 0xF0
  · rw [if_pos h₄]
    refine ⟨⟨by split <;> decide, .inr (.inl ⟨rfl, by omega, fun hbits => ?_, fun hbits => ?_⟩)⟩,
      fun c hc => absurd hc List.not_mem_nil⟩
    · rw [if_pos (UInt8.toNat_inj.1 (show b.toNat = 0xE0 by omega))]
      exact UInt8.le_refl _
    · rw [if_pos (UInt8.toNat_inj.1 (show b.toNat = 0xED by omega))]
      exact UInt8.le_refl _
  rw [if_neg h₄]
  by_cases h₅ : b.toNat < 0xF5
  · rw [if_pos h₅]
    refine ⟨⟨by split <;> decide, .inr (.inr ⟨rfl, by omega, fun hbits => ?_, fun hbits => ?_⟩)⟩,
      fun c hc => absurd hc List.not_mem_nil⟩
    · rw [if_pos (UInt8.toNat_inj.1 (show b.toNat = 0xF0 by omega))]
      exact UInt8.le_refl _
    · rw [if_pos (UInt8.toNat_inj.1 (show b.toNat = 0xF4 by omega))]
      exact UInt8.le_refl _
  · rw [if_neg h₅]
    exact ⟨trivial, by simpa only [UInt8.lt_iff_toNat_lt, UInt8.reduceToNat] using hreplacement⟩

/-- A step keeps the state sound, and completes no character below 128 but that of the byte. -/
theorem step_sound {state : State} (h : state.Sound) (b : UInt8) :
    (step state b).2.Sound ∧ ∀ c ∈ (step state b).1, c.toNat < 0x80 →
      b < 0x80 ∧ c = Char.ofNat b.toNat := by
  cases state with
  | start => exact stepStart_sound b
  | inside left lower upper bits hlower =>
    rw [step]
    split_ifs with hrange hleft
    · -- The character is complete: it is beyond 127.
      obtain ⟨hupper, ⟨rfl, hbits⟩ | ⟨rfl, -⟩ | ⟨rfl, -⟩⟩ := h
      · refine ⟨trivial, fun c hc hlt => absurd hlt ?_⟩
        obtain ⟨h₁, h₂⟩ := hrange
        simp only [UInt8.le_iff_toNat_le, UInt8.reduceToNat] at h₁ h₂ hupper hlower
        have hvalid : (bits * 64 + (b.toNat - 0x80)).isValidChar := by
          rw [Nat.isValidChar]
          omega
        rw [List.mem_singleton.1 hc, toNat_ofNat hvalid]
        omega
      · omega
      · omega
    · refine ⟨⟨by decide, ?_⟩, fun c hc => absurd hc List.not_mem_nil⟩
      obtain ⟨h₁, h₂⟩ := hrange
      obtain ⟨hupper, ⟨rfl, -⟩ | ⟨rfl, hbits, hfirst, hlast⟩ | ⟨rfl, hbits, hfirst, hlast⟩⟩ := h
      · omega
      · simp only [UInt8.le_iff_toNat_le, UInt8.reduceToNat] at h₁ h₂ hupper hlower hfirst hlast
        exact .inl ⟨rfl, by omega⟩
      · simp only [UInt8.le_iff_toNat_le, UInt8.reduceToNat] at h₁ h₂ hupper hlower hfirst hlast
        exact .inr (.inl ⟨rfl, by omega⟩)
    · obtain ⟨hsound, hchars⟩ := stepStart_sound b
      refine ⟨hsound, fun c hc hlt => ?_⟩
      rcases List.mem_cons.1 hc with rfl | hc
      · exact absurd hlt (by decide)
      · exact hchars c hc hlt

/-- A character below 128 stands for its byte. -/
theorem mem_of_mem_decode {state : State} (h : state.Sound) {s : List UInt8} {c : Char}
    (hc : c ∈ decode state s) (hlt : c.toNat < 0x80) : ∃ b ∈ s, c = Char.ofNat b.toNat := by
  induction s generalizing state with
  | nil =>
    cases state with
    | start => exact absurd hc List.not_mem_nil
    | inside left lower upper bits hlower =>
      rw [List.mem_singleton.1 hc] at hlt
      exact absurd hlt (by decide)
  | cons b s ih =>
    obtain ⟨hsound, hchars⟩ := step_sound h b
    rcases List.mem_append.1 (decode_cons state b s ▸ hc) with hc | hc
    · exact ⟨b, List.mem_cons_self, (hchars c hc hlt).2⟩
    · obtain ⟨b', hb', heq⟩ := ih hsound hc
      exact ⟨b', List.mem_cons_of_mem _ hb', heq⟩

/-- A character that is begun leaves something. -/
theorem decode_inside_ne_nil {left bits : ℕ} {lower upper : UInt8} {h : 0x80 ≤ lower}
    (s : List UInt8) : decode (.inside left lower upper bits h) s ≠ [] := by
  induction s generalizing left bits lower upper with
  | nil => exact List.cons_ne_nil _ _
  | cons b s ih =>
    rw [decode_cons, step]
    split_ifs
    · exact List.cons_ne_nil _ _
    · exact ih
    · exact List.cons_ne_nil _ _

/-- Nothing is decoded to an empty text but the empty one. -/
theorem decode_eq_nil_iff {s : List UInt8} : decode .start s = [] ↔ s = [] := by
  cases s with
  | nil => exact iff_of_true rfl rfl
  | cons b s =>
    refine iff_of_false ?_ (List.cons_ne_nil b s)
    rw [decode_cons, step, stepStart]
    split_ifs
    all_goals first | exact decode_inside_ne_nil s | exact List.cons_ne_nil _ _

/-! ## Encoding -/

/-- The bytes of a text. -/
def encode (s : List Char) : List UInt8 := s.flatMap String.utf8EncodeChar

/-- The characters of a text which is well formed. -/
def decode? (s : List UInt8) : Option (List Char) :=
  if encode (decode .start s) = s then some (decode .start s) else none

/-- The bits of a character that are left after another byte. -/
theorem step_continue {left bits : ℕ} {lower upper b : UInt8} {h : 0x80 ≤ lower} (hleft : 1 < left)
    (hlower : lower.toNat ≤ b.toNat) (hupper : b.toNat ≤ upper.toNat) :
    step (.inside left lower upper bits h) b =
      ([], .inside (left - 1) 0x80 0xBF (bits * 64 + (b.toNat - 0x80)) (by decide)) := by
  rw [step, if_pos ⟨UInt8.le_iff_toNat_le.2 hlower, UInt8.le_iff_toNat_le.2 hupper⟩,
    if_neg (Nat.not_le.2 hleft)]

/-- The last byte of a character. -/
theorem step_last {bits : ℕ} {lower upper b : UInt8} {h : 0x80 ≤ lower}
    (hlower : lower.toNat ≤ b.toNat) (hupper : b.toNat ≤ upper.toNat) :
    step (.inside 1 lower upper bits h) b =
      ([Char.ofNat (bits * 64 + (b.toNat - 0x80))], .start) := by
  rw [step, if_pos ⟨UInt8.le_iff_toNat_le.2 hlower, UInt8.le_iff_toNat_le.2 hupper⟩,
    if_pos (Nat.le_refl 1)]

/-- Two bytes that belong together are one character. -/
theorem decode_two {a b : UInt8} (ha : 0xC2 ≤ a.toNat ∧ a.toNat < 0xE0)
    (hb : 0x80 ≤ b.toNat ∧ b.toNat ≤ 0xBF) (s : List UInt8) :
    decode .start (a :: b :: s) =
      Char.ofNat ((a.toNat - 0xC0) * 64 + (b.toNat - 0x80)) :: decode .start s := by
  have hfirst : step .start a = ([], .inside 1 0x80 0xBF (a.toNat - 0xC0) (by decide)) := by
    simp only [step, stepStart, UInt8.lt_iff_toNat_lt, UInt8.reduceToNat]
    rw [if_neg (by omega), if_neg (by omega), if_pos (by omega)]
  have hlast : step (.inside 1 0x80 0xBF (a.toNat - 0xC0) (by decide)) b =
      ([Char.ofNat ((a.toNat - 0xC0) * 64 + (b.toNat - 0x80))], .start) := step_last hb.1 hb.2
  rw [decode_cons, hfirst, decode_cons, hlast]
  rfl

/-- Three bytes are one character, if they stand for no shorter form and no surrogate. -/
theorem decode_three {a b c : UInt8} (ha : 0xE0 ≤ a.toNat ∧ a.toNat < 0xF0)
    (hb : 0x80 ≤ b.toNat ∧ b.toNat ≤ 0xBF) (hb₀ : a.toNat = 0xE0 → 0xA0 ≤ b.toNat)
    (hb₁ : a.toNat = 0xED → b.toNat ≤ 0x9F) (hc : 0x80 ≤ c.toNat ∧ c.toNat ≤ 0xBF)
    (s : List UInt8) :
    decode .start (a :: b :: c :: s) =
      Char.ofNat (((a.toNat - 0xE0) * 64 + (b.toNat - 0x80)) * 64 + (c.toNat - 0x80)) ::
        decode .start s := by
  have hfirst : step .start a = ([], .inside 2 (if a = 0xE0 then 0xA0 else 0x80)
      (if a = 0xED then 0x9F else 0xBF) (a.toNat - 0xE0) (by split <;> decide)) := by
    simp only [step, stepStart, UInt8.lt_iff_toNat_lt, UInt8.reduceToNat]
    rw [if_neg (by omega), if_neg (by omega), if_neg (by omega), if_pos (by omega)]
  -- The second byte has the narrower bounds.
  have hsecond : step (.inside 2 (if a = 0xE0 then 0xA0 else 0x80)
      (if a = 0xED then 0x9F else 0xBF) (a.toNat - 0xE0) (by split <;> decide)) b =
        ([], .inside 1 0x80 0xBF ((a.toNat - 0xE0) * 64 + (b.toNat - 0x80)) (by decide)) := by
    refine step_continue (by decide) ?_ ?_
    · split_ifs with h
      · exact hb₀ (congrArg UInt8.toNat h)
      · exact hb.1
    · split_ifs with h
      · exact hb₁ (congrArg UInt8.toNat h)
      · exact hb.2
  have hlast : step (.inside 1 0x80 0xBF ((a.toNat - 0xE0) * 64 + (b.toNat - 0x80)) (by decide)) c =
      ([Char.ofNat (((a.toNat - 0xE0) * 64 + (b.toNat - 0x80)) * 64 + (c.toNat - 0x80))], .start) :=
    step_last hc.1 hc.2
  rw [decode_cons, hfirst, decode_cons, hsecond, decode_cons, hlast]
  rfl

/-- Four bytes are one character, if they stand for no shorter form and for none beyond the last
    character. -/
theorem decode_four {a b c d : UInt8} (ha : 0xF0 ≤ a.toNat ∧ a.toNat < 0xF5)
    (hb : 0x80 ≤ b.toNat ∧ b.toNat ≤ 0xBF) (hb₀ : a.toNat = 0xF0 → 0x90 ≤ b.toNat)
    (hb₁ : a.toNat = 0xF4 → b.toNat ≤ 0x8F) (hc : 0x80 ≤ c.toNat ∧ c.toNat ≤ 0xBF)
    (hd : 0x80 ≤ d.toNat ∧ d.toNat ≤ 0xBF) (s : List UInt8) :
    decode .start (a :: b :: c :: d :: s) =
      Char.ofNat ((((a.toNat - 0xF0) * 64 + (b.toNat - 0x80)) * 64 + (c.toNat - 0x80)) * 64 +
        (d.toNat - 0x80)) :: decode .start s := by
  have hfirst : step .start a = ([], .inside 3 (if a = 0xF0 then 0x90 else 0x80)
      (if a = 0xF4 then 0x8F else 0xBF) (a.toNat - 0xF0) (by split <;> decide)) := by
    simp only [step, stepStart, UInt8.lt_iff_toNat_lt, UInt8.reduceToNat]
    rw [if_neg (by omega), if_neg (by omega), if_neg (by omega), if_neg (by omega), if_pos (by omega)]
  -- The second byte has the narrower bounds, and the other ones are any continuation.
  have hsecond : step (.inside 3 (if a = 0xF0 then 0x90 else 0x80)
      (if a = 0xF4 then 0x8F else 0xBF) (a.toNat - 0xF0) (by split <;> decide)) b =
        ([], .inside 2 0x80 0xBF ((a.toNat - 0xF0) * 64 + (b.toNat - 0x80)) (by decide)) := by
    refine step_continue (by decide) ?_ ?_
    · split_ifs with h
      · exact hb₀ (congrArg UInt8.toNat h)
      · exact hb.1
    · split_ifs with h
      · exact hb₁ (congrArg UInt8.toNat h)
      · exact hb.2
  have hthird : step (.inside 2 0x80 0xBF ((a.toNat - 0xF0) * 64 + (b.toNat - 0x80)) (by decide)) c =
      ([], .inside 1 0x80 0xBF (((a.toNat - 0xF0) * 64 + (b.toNat - 0x80)) * 64 + (c.toNat - 0x80))
        (by decide)) := step_continue (by decide) hc.1 hc.2
  have hlast : step (.inside 1 0x80 0xBF
      (((a.toNat - 0xF0) * 64 + (b.toNat - 0x80)) * 64 + (c.toNat - 0x80)) (by decide)) d =
        ([Char.ofNat ((((a.toNat - 0xF0) * 64 + (b.toNat - 0x80)) * 64 + (c.toNat - 0x80)) * 64 +
          (d.toNat - 0x80))], .start) := step_last hd.1 hd.2
  rw [decode_cons, hfirst, decode_cons, hsecond, decode_cons, hthird, decode_cons, hlast]
  rfl

/-- A character is decoded to itself. -/
theorem decode_utf8EncodeChar (c : Char) (s : List UInt8) :
    decode .start (String.utf8EncodeChar c ++ s) = c :: decode .start s := by
  have hchar : Char.ofNat c.val.toNat = c := Char.ofNat_toNat c
  have hvalid : c.val.toNat < 0xD800 ∨ 0xDFFF < c.val.toNat ∧ c.val.toNat < 0x110000 := c.valid
  generalize hv : c.val.toNat = v at hchar hvalid
  have hbyte : ∀ n, n < 256 → (UInt8.ofNat n).toNat = n := fun n hn => UInt8.toNat_ofNat_of_lt' hn
  rw [String.utf8EncodeChar]
  simp only [hv]
  -- One case for each length of an encoding.
  split_ifs with h₁ h₂ h₃
  · have hascii := decode_ascii_append (a := [UInt8.ofNat v]) (by
      simp only [List.mem_singleton, forall_eq, UInt8.lt_iff_toNat_lt, hbyte v (by omega),
        UInt8.reduceToNat]
      omega) s
    rw [hascii, List.map_singleton, hbyte v (by omega), hchar]
    rfl
  · have ha := hbyte (v / 64 % 0x20 + 0xC0) (by omega)
    have hb := hbyte (v % 0x40 + 0x80) (by omega)
    rw [List.cons_append, List.cons_append, List.nil_append,
      decode_two (by rw [ha]; omega) (by rw [hb]; omega), ha, hb]
    rw [show (v / 64 % 0x20 + 0xC0 - 0xC0) * 64 + (v % 0x40 + 0x80 - 0x80) = v by omega, hchar]
  · have ha := hbyte (v / 4096 % 0x10 + 0xE0) (by omega)
    have hb := hbyte (v / 64 % 0x40 + 0x80) (by omega)
    have hc := hbyte (v % 0x40 + 0x80) (by omega)
    rw [List.cons_append, List.cons_append, List.cons_append, List.nil_append,
      decode_three (by rw [ha]; omega) (by rw [hb]; omega) (by rw [ha, hb]; omega)
        (by rw [ha, hb]; omega) (by rw [hc]; omega), ha, hb, hc]
    rw [show ((v / 4096 % 0x10 + 0xE0 - 0xE0) * 64 + (v / 64 % 0x40 + 0x80 - 0x80)) * 64 +
      (v % 0x40 + 0x80 - 0x80) = v by omega, hchar]
  · have ha := hbyte (v / 262144 % 0x08 + 0xF0) (by omega)
    have hb := hbyte (v / 4096 % 0x40 + 0x80) (by omega)
    have hc := hbyte (v / 64 % 0x40 + 0x80) (by omega)
    have hd := hbyte (v % 0x40 + 0x80) (by omega)
    rw [List.cons_append, List.cons_append, List.cons_append, List.cons_append, List.nil_append,
      decode_four (by rw [ha]; omega) (by rw [hb]; omega) (by rw [ha, hb]; omega)
        (by rw [ha, hb]; omega) (by rw [hc]; omega) (by rw [hd]; omega), ha, hb, hc, hd]
    rw [show (((v / 262144 % 0x08 + 0xF0 - 0xF0) * 64 + (v / 4096 % 0x40 + 0x80 - 0x80)) * 64 +
      (v / 64 % 0x40 + 0x80 - 0x80)) * 64 + (v % 0x40 + 0x80 - 0x80) = v by omega, hchar]

theorem encode_cons (c : Char) (s : List Char) :
    encode (c :: s) = String.utf8EncodeChar c ++ encode s := List.flatMap_cons

theorem decode_encode (s : List Char) : decode .start (encode s) = s := by
  induction s with
  | nil => rfl
  | cons c s ih => rw [encode_cons, decode_utf8EncodeChar, ih]

theorem decode?_encode (s : List Char) : decode? (encode s) = some s := by
  rw [decode?, decode_encode, if_pos rfl]

/-- The well-formed texts are those that are encoded. -/
theorem decode?_eq_some_iff {s : List UInt8} {t : List Char} : decode? s = some t ↔ s = encode t := by
  constructor
  · intro h
    rw [decode?] at h
    split_ifs at h with hs
    rw [← Option.some.inj h, hs]
  · rintro rfl
    exact decode?_encode t

/-- A byte below 128 stands for itself. -/
theorem mem_of_mem_encode {s : List Char} {b : UInt8} (hb : b < 0x80) (h : b ∈ encode s) :
    Char.ofNat b.toNat ∈ s := by
  obtain ⟨l, r, hlr⟩ := List.append_of_mem h
  rw [← decode_encode s, hlr, decode_append_ascii _ _ hb]
  exact List.mem_append_right _ List.mem_cons_self

/-- ASCII is encoded as it was decoded. -/
theorem encode_decode_ascii {a : List UInt8} (ha : ∀ b ∈ a, b < 0x80) :
    encode (decode .start a) = a := by
  induction a with
  | nil => rfl
  | cons b a ih =>
    have hb : b.toNat < 128 := UInt8.lt_iff_toNat_lt.1 (ha b List.mem_cons_self)
    have htoNat : (Char.ofNat b.toNat).toNat = b.toNat := toNat_ofNat (.inl (by omega))
    have hsize : (Char.ofNat b.toNat).utf8Size = 1 := by
      rw [Char.utf8Size_eq_one_iff, UInt32.le_iff_toNat_le]
      exact Nat.le_of_lt_succ (htoNat.trans_lt hb)
    have hbyte : (Char.ofNat b.toNat).val.toUInt8 = b := by
      rw [← UInt8.toNat_inj, UInt32.toNat_toUInt8]
      exact (congrArg (· % 2 ^ 8) htoNat).trans (Nat.mod_eq_of_lt b.toNat_lt)
    rw [decode_cons, step_ascii (ha b List.mem_cons_self), List.singleton_append, encode_cons,
      String.utf8EncodeChar_eq_singleton hsize, hbyte,
      ih fun b hb => ha b (List.mem_cons_of_mem _ hb)]
    rfl

/-- A text of bytes below 128 is well formed. -/
theorem isSome_decode?_ascii {a : List UInt8} (ha : ∀ b ∈ a, b < 0x80) : (decode? a).isSome := by
  rw [decode?, if_pos (encode_decode_ascii ha), Option.isSome_some]

/-- Well-formed texts one after the other are well formed. -/
theorem isSome_decode?_append {s t : List UInt8} (hs : (decode? s).isSome)
    (ht : (decode? t).isSome) : (decode? (s ++ t)).isSome := by
  obtain ⟨s', hs⟩ := Option.isSome_iff_exists.1 hs
  obtain ⟨t', ht⟩ := Option.isSome_iff_exists.1 ht
  obtain rfl := decode?_eq_some_iff.1 hs
  obtain rfl := decode?_eq_some_iff.1 ht
  have happend : encode s' ++ encode t' = encode (s' ++ t') := List.flatMap_append.symm
  rw [happend, decode?_encode, Option.isSome_some]

theorem encode_injective : Function.Injective encode := fun s t h => by
  rw [← decode_encode s, h, decode_encode]

/-- The beginning of a text, as far as its bytes are those of one. -/
theorem prefix_of_encode_prefix {s t : List Char} (h : encode s <+: encode t) : s <+: t := by
  induction s generalizing t with
  | nil => exact List.nil_prefix
  | cons c s ih =>
    obtain ⟨r, hr⟩ := h
    cases t with
    | nil =>
      have hdecode := congrArg (decode .start) hr
      rw [encode_cons, List.append_assoc, decode_utf8EncodeChar] at hdecode
      cases hdecode
    | cons d t =>
      -- Both texts start with the same character.
      have hdecode := congrArg (decode .start) hr
      rw [encode_cons, List.append_assoc, decode_utf8EncodeChar, decode_encode] at hdecode
      obtain rfl := (List.cons.inj hdecode).1
      rw [encode_cons, encode_cons, List.append_assoc, List.append_cancel_left_eq] at hr
      exact List.cons_prefix_cons.2 ⟨rfl, ih ⟨r, hr⟩⟩

end Utf8
