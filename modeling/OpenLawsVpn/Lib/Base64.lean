import Mathlib.Algebra.Order.Group.Nat
import Mathlib.Data.List.Basic

/-!
# Base64

Three bytes are four numbers of six bits (`sextets`), written in one of two
alphabets, which differ in the symbols of 62 and 63 (`standard`, `urlSafe`). A
last group of one or two bytes is filled up with zero bits; in the padded form,
the text is filled up with `=` to a multiple of four symbols (`encode`).

A text in transit may also be broken by line ends anywhere (`IsText`).

* `decode_encode`: decoding undoes the encoding, in either alphabet, padded or not;
* `mem_encode_standard`: which symbols the standard form has;
* `IsText.append_padding_iff`: when the padding by length makes the standard form of a text.
-/

namespace Base64

/-- The numbers of six bits that a text of bytes is cut into. -/
def sextets : List UInt8 → List ℕ
  | [] => []
  | [a] => [a.toNat / 4, a.toNat % 4 * 16]
  | [a, b] => [a.toNat / 4, a.toNat % 4 * 16 + b.toNat / 16, b.toNat % 16 * 4]
  | a :: b :: c :: d =>
    a.toNat / 4 :: (a.toNat % 4 * 16 + b.toNat / 16) :: (b.toNat % 16 * 4 + c.toNat / 64) ::
      c.toNat % 64 :: sextets d

/-- A number of six bits. -/
theorem lt_of_mem_sextets {d : List UInt8} {n : ℕ} (h : n ∈ sextets d) : n < 64 := by
  induction d using sextets.induct with
  | case1 => cases h
  | case2 a =>
    have := a.toNat_lt
    simp only [sextets, List.mem_cons, List.not_mem_nil, or_false] at h
    omega
  | case3 a b =>
    have := a.toNat_lt
    have := b.toNat_lt
    simp only [sextets, List.mem_cons, List.not_mem_nil, or_false] at h
    omega
  | case4 a b c d ih =>
    have := a.toNat_lt
    have := b.toNat_lt
    have := c.toNat_lt
    simp only [sextets, List.mem_cons] at h
    rcases h with h | h | h | h | h
    · omega
    · omega
    · omega
    · omega
    · exact ih h

/-! ## Alphabets -/

/-- The symbol of a number in the standard alphabet. -/
def standard (n : ℕ) : UInt8 :=
  if n < 26 then UInt8.ofNat (65 + n)
  else if n < 52 then UInt8.ofNat (71 + n)
  else if n < 62 then UInt8.ofNat (n - 4)
  else if n = 62 then 43 else 47

/-- The symbol of a number in the URL-safe alphabet. -/
def urlSafe (n : ℕ) : UInt8 := if n = 62 then 45 else if n = 63 then 95 else standard n

/-- A symbol of the standard alphabet. -/
def isStandard (b : UInt8) : Bool :=
  (65 ≤ b && b ≤ 90) || (97 ≤ b && b ≤ 122) || (48 ≤ b && b ≤ 57) || b = 43 || b = 47

/-- The symbols of the numbers are in the standard alphabet. -/
theorem isStandard_standard {n : ℕ} (h : n < 64) : isStandard (standard n) := by
  have hall : ∀ n < 64, isStandard (standard n) = true := by decide
  exact hall n h

theorem lt_of_isStandard {b : UInt8} (h : isStandard b) : b < 0x80 := by
  grind [isStandard]

/-- The forms of a text. -/
structure Variant where
  urlSafe : Bool := false
  padded : Bool := true

/-- The symbol of a number in the form. -/
def Variant.symbol (v : Variant) (n : ℕ) : UInt8 := if v.urlSafe then Base64.urlSafe n else standard n

/-- A symbol is that of the standard alphabet, or one of the two others. -/
theorem Variant.symbol_eq (v : Variant) (n : ℕ) :
    v.symbol n = standard n ∨ v.symbol n = 45 ∨ v.symbol n = 95 := by
  rw [symbol]
  split_ifs
  · rw [Base64.urlSafe]
    split_ifs <;> simp
  · exact .inl rfl

/-! ## Texts -/

/-- The padding of a text of `n` symbols. -/
def padding (n : ℕ) : List UInt8 := List.replicate ((4 - n % 4) % 4) 61

theorem eq_of_mem_padding {n : ℕ} {b : UInt8} (h : b ∈ padding n) : b = 61 :=
  List.eq_of_mem_replicate h

/-- A text with its padding needs no more of it. -/
theorem padding_add (n : ℕ) : padding (n + (padding n).length) = [] := by
  rw [padding, padding, List.length_replicate, show (4 - (n + (4 - n % 4) % 4) % 4) % 4 = 0 by omega]
  rfl

/-- The base64 text of `d` in a form. -/
def encode (v : Variant) (d : List UInt8) : List UInt8 :=
  (sextets d).map v.symbol ++ if v.padded then padding (sextets d).length else []

/-- The padding makes the padded form of a text. -/
theorem encode_append_padding (v : Variant) (d : List UInt8) :
    encode v d ++ padding (encode v d).length =
      (sextets d).map v.symbol ++ padding (sextets d).length := by
  rw [encode]
  split_ifs
  · rw [List.length_append, List.length_map, padding_add, List.append_nil]
  · rw [List.append_nil, List.length_map]

/-- The symbols of a text, in either alphabet. -/
theorem mem_encode {v : Variant} {d : List UInt8} {b : UInt8} (h : b ∈ encode v d) :
    isStandard b ∨ b = 61 ∨ b = 45 ∨ b = 95 := by
  rw [encode] at h
  rcases List.mem_append.1 h with h | h
  · obtain ⟨n, hn, rfl⟩ := List.mem_map.1 h
    rcases v.symbol_eq n with hv | hv | hv
    · exact .inl (hv ▸ isStandard_standard (lt_of_mem_sextets hn))
    · exact .inr (.inr (.inl hv))
    · exact .inr (.inr (.inr hv))
  · split_ifs at h
    · exact .inr (.inl (eq_of_mem_padding h))
    · cases h

/-- The standard form has no symbol of the other alphabet. -/
theorem mem_encode_standard {d : List UInt8} {b : UInt8} (h : b ∈ encode {} d) :
    isStandard b ∨ b = 61 := by
  rcases List.mem_append.1 h with h | h
  · obtain ⟨n, hn, rfl⟩ := List.mem_map.1 h
    exact .inl (isStandard_standard (lt_of_mem_sextets hn))
  · exact .inr (eq_of_mem_padding h)

/-- `t` is a base64 text of `d`, broken by line ends. -/
def IsText (d t : List UInt8) : Prop :=
  ∃ v, t.filter (fun b => b ≠ 13 ∧ b ≠ 10) = encode v d

/-- A text has only symbols and line ends. -/
theorem IsText.mem {d t : List UInt8} (h : IsText d t) {b : UInt8} (hb : b ∈ t) :
    isStandard b ∨ b = 61 ∨ b = 45 ∨ b = 95 ∨ b = 13 ∨ b = 10 := by
  obtain ⟨v, hv⟩ := h
  by_cases hend : b = 13 ∨ b = 10
  · exact .inr (.inr (.inr (.inr hend)))
  · have hmem : b ∈ t.filter (fun b => b ≠ 13 ∧ b ≠ 10) :=
      List.mem_filter.2 ⟨hb, by simpa [not_or] using hend⟩
    rw [hv] at hmem
    have := mem_encode hmem
    tauto

/-- The padding makes the standard form of a text exactly if it has no line end and
    no symbol of the URL-safe alphabet only. -/
theorem IsText.append_padding_iff {d t : List UInt8} (h : IsText d t) :
    t ++ padding t.length = encode {} d ↔ ∀ b ∈ t, b ≠ 13 ∧ b ≠ 10 ∧ b ≠ 45 ∧ b ≠ 95 := by
  constructor
  · intro heq b hb
    have hmem : b ∈ encode {} d := heq ▸ List.mem_append_left _ hb
    have hclosed : ∀ c, isStandard c ∨ c = 61 → c ≠ 13 ∧ c ≠ 10 ∧ c ≠ 45 ∧ c ≠ 95 := by
      rintro c hc
      refine ⟨?_, ?_, ?_, ?_⟩ <;> rintro rfl <;> revert hc <;> decide
    exact hclosed b (mem_encode_standard hmem)
  · intro hb
    obtain ⟨v, hv⟩ := h
    -- Without line ends the text is the encoding, and without its symbols in the standard one.
    have ht : t.filter (fun b => b ≠ 13 ∧ b ≠ 10) = t :=
      List.filter_eq_self.2 fun b hmem => by simp [hb b hmem]
    rw [ht] at hv
    subst hv
    rw [encode_append_padding]
    have hsymbols : (sextets d).map v.symbol = (sextets d).map standard := by
      refine List.map_congr_left fun n hn => ?_
      have hsymbol : v.symbol n ∈ encode v d := List.mem_append_left _ (List.mem_map_of_mem hn)
      obtain ⟨-, -, h45, h95⟩ := hb _ hsymbol
      exact (v.symbol_eq n).resolve_right (not_or.2 ⟨h45, h95⟩)
    rw [hsymbols]
    rfl

/-! ## Decoding -/

/-- The number of a symbol of either alphabet. -/
def symbolValue (b : UInt8) : Option ℕ :=
  if 65 ≤ b ∧ b ≤ 90 then some (b.toNat - 65)
  else if 97 ≤ b ∧ b ≤ 122 then some (b.toNat - 71)
  else if 48 ≤ b ∧ b ≤ 57 then some (b.toNat + 4)
  else if b = 43 ∨ b = 45 then some 62
  else if b = 47 ∨ b = 95 then some 63
  else none

/-- The bytes of numbers of six bits. -/
def ofSextets : List ℕ → List UInt8
  | a :: b :: c :: e :: r =>
    UInt8.ofNat (a * 4 + b / 16) :: UInt8.ofNat (b % 16 * 16 + c / 4) ::
      UInt8.ofNat (c % 4 * 64 + e) :: ofSextets r
  | [a, b, c] => [UInt8.ofNat (a * 4 + b / 16), UInt8.ofNat (b % 16 * 16 + c / 4)]
  | [a, b] => [UInt8.ofNat (a * 4 + b / 16)]
  | _ => []

/-- The bytes of a base64 text, whatever else is in it. -/
def decode (t : List UInt8) : List UInt8 := ofSextets (t.filterMap symbolValue)

/-- A symbol has the value of its number. -/
theorem symbolValue_symbol (v : Variant) {n : ℕ} (h : n < 64) :
    symbolValue (v.symbol n) = some n := by
  have hall : ∀ urlSafe, ∀ n < 64, symbolValue (Variant.symbol ⟨urlSafe, true⟩ n) = some n := by
    decide +kernel
  exact hall v.urlSafe n h

/-- The bytes are those that the numbers were made of. -/
theorem ofSextets_sextets (d : List UInt8) : ofSextets (sextets d) = d := by
  have hbyte : ∀ (b : UInt8) {n : ℕ}, n = b.toNat → UInt8.ofNat n = b := by
    rintro b n rfl
    exact UInt8.ofNat_toNat
  induction d using sextets.induct with
  | case1 => rfl
  | case2 a =>
    have := a.toNat_lt
    rw [sextets, ofSextets, hbyte a (by omega)]
  | case3 a b =>
    have := a.toNat_lt
    have := b.toNat_lt
    rw [sextets, ofSextets, hbyte a (by omega), hbyte b (by omega)]
  | case4 a b c d ih =>
    have := a.toNat_lt
    have := b.toNat_lt
    have := c.toNat_lt
    rw [sextets, ofSextets, ih, hbyte a (by omega), hbyte b (by omega), hbyte c (by omega)]

/-- Decoding undoes the encoding in every form. -/
theorem decode_encode (v : Variant) (d : List UInt8) : decode (encode v d) = d := by
  have hsymbols : ((sextets d).map v.symbol).filterMap symbolValue = sextets d := by
    rw [List.filterMap_map]
    refine (List.filterMap_congr fun n hn => ?_).trans List.filterMap_some
    exact symbolValue_symbol v (lt_of_mem_sextets hn)
  have hpadding :
      (if v.padded then padding (sextets d).length else []).filterMap symbolValue = [] := by
    rw [List.filterMap_eq_nil_iff]
    intro b hb
    split_ifs at hb
    · rw [eq_of_mem_padding hb]
      rfl
    · cases hb
  rw [decode, encode, List.filterMap_append, hsymbols, hpadding, List.append_nil, ofSextets_sextets]

end Base64
