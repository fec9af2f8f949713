import OpenLawsVpn.Lib.Search

/-!
# Form encoding

The serialisation of key/value pairs as `application/x-www-form-urlencoded`:
letters, digits and `*-._` stand for themselves, a space is a `+`, every other
byte is `%HH` with hexadecimal digits of either case; `=` is between a key and
its value, `&` between pairs. As the case of the digits is free, the encoding is
a relation (`Encodes`, `Serializes`), which the decoder undoes (`decode_encodes`).

A name that starts with a letter beyond `f` and has only unreserved bytes is
found, followed by `=`, exactly where a key ends in it: it does not overlap an
escape (`Encodes.suffix`), nor a separator (`not_prefix_of_suffix`). So when it
only ends the keys equal to it, the first occurrence is the first pair with that
key (`find_field`).

* `decode_encodes`: the decoder undoes every encoding;
* `encodes_self`: unreserved bytes encode themselves;
* `find_field_some`, `find_field_none`: where a name followed by `=` is found in a serialised form.
-/

namespace Form

/-- The value of a hexadecimal digit. -/
def hexValue (b : UInt8) : Option ℕ :=
  if 48 ≤ b ∧ b ≤ 57 then some (b.toNat - 48)
  else if 65 ≤ b ∧ b ≤ 70 then some (b.toNat - 55)
  else if 97 ≤ b ∧ b ≤ 102 then some (b.toNat - 87)
  else none

theorem hexValue_lt {b : UInt8} {n : ℕ} (h : hexValue b = some n) : n < 16 := by
  rw [hexValue] at h
  simp only [UInt8.le_iff_toNat_le, UInt8.toNat_ofNat] at h
  split_ifs at h <;> simp only [Option.some.injEq] at h <;> omega

/-- A byte that stands for itself. -/
def isUnreserved (b : UInt8) : Bool :=
  (48 ≤ b && b ≤ 57) || (65 ≤ b && b ≤ 90) || (97 ≤ b && b ≤ 122) ||
    b = 42 || b = 45 || b = 46 || b = 95

/-- `e` encodes the byte `b`. -/
inductive EncodesByte : UInt8 → List UInt8 → Prop
  | unreserved {b : UInt8} : isUnreserved b → EncodesByte b [b]
  | space : EncodesByte 32 [43]
  | escaped {b h l : UInt8} : ¬isUnreserved b → b ≠ 32 → hexValue h = some (b.toNat / 16) →
      hexValue l = some (b.toNat % 16) → EncodesByte b [37, h, l]

/-- `e` encodes the text `k`. -/
inductive Encodes : List UInt8 → List UInt8 → Prop
  | nil : Encodes [] []
  | cons {b : UInt8} {eb k e : List UInt8} : EncodesByte b eb → Encodes k e → Encodes (b :: k) (eb ++ e)

/-- `body` is a serialisation of the pairs. -/
inductive Serializes : List (List UInt8 × List UInt8) → List UInt8 → Prop
  | nil : Serializes [] []
  | single {k v ek ev : List UInt8} : Encodes k ek → Encodes v ev →
      Serializes [(k, v)] (ek ++ 61 :: ev)
  | cons {k v ek ev body : List UInt8} {p : List UInt8 × List UInt8}
      {ps : List (List UInt8 × List UInt8)} : Encodes k ek → Encodes v ev → Serializes (p :: ps) body →
      Serializes ((k, v) :: p :: ps) (ek ++ 61 :: ev ++ 38 :: body)

/-! ## Decoding -/

/-- The text that is encoded: a `+` is a space, an escape its byte, and every other
    byte, also a percent sign without two digits, stands for itself. -/
def decode : List UInt8 → List UInt8
  | [] => []
  | 43 :: e => 32 :: decode e
  | 37 :: h :: l :: e =>
    match hexValue h, hexValue l with
    | some m, some n => UInt8.ofNat (16 * m + n) :: decode e
    | _, _ => 37 :: decode (h :: l :: e)
  | b :: e => b :: decode e

/-- Two hexadecimal digits are at the start of a text. -/
def StartsHex : List UInt8 → Prop
  | h :: l :: _ => (hexValue h).isSome = true ∧ (hexValue l).isSome = true
  | _ => False

instance : DecidablePred StartsHex
  | _ :: _ :: _ => inferInstanceAs (Decidable (_ ∧ _))
  | [_] => inferInstanceAs (Decidable False)
  | [] => inferInstanceAs (Decidable False)

theorem decode_plus (e : List UInt8) : decode (43 :: e) = 32 :: decode e := rfl

/-- Other bytes than `+` and `%` stand for themselves. -/
theorem decode_of_ne {b : UInt8} (h43 : b ≠ 43) (h37 : b ≠ 37) (e : List UInt8) :
    decode (b :: e) = b :: decode e := by
  rw [decode]
  · exact h43
  · exact fun _ _ _ h => absurd h h37

/-- Two hexadecimal digits after `%` are a byte. -/
theorem decode_escape {h l : UInt8} {m n : ℕ} (hh : hexValue h = some m) (hl : hexValue l = some n)
    (e : List UInt8) : decode (37 :: h :: l :: e) = UInt8.ofNat (16 * m + n) :: decode e := by
  rw [decode, hh, hl]

/-- A percent sign without two digits stands for itself. -/
theorem decode_percent {e : List UInt8} (he : ¬StartsHex e) :
    decode (37 :: e) = 37 :: decode e := by
  rcases e with _ | ⟨h, _ | ⟨l, e⟩⟩
  · rfl
  · rfl
  · rw [decode]
    split
    · next hh hl => exact absurd ⟨by rw [hh]; rfl, by rw [hl]; rfl⟩ he
    · rfl

/-- Every form of a byte is decoded to it. -/
theorem decode_encodesByte {b : UInt8} {eb : List UInt8} (h : EncodesByte b eb) (e : List UInt8) :
    decode (eb ++ e) = b :: decode e := by
  cases h with
  | unreserved hb =>
    have h43 : b ≠ 43 := by rintro rfl; exact absurd hb (by decide)
    have h37 : b ≠ 37 := by rintro rfl; exact absurd hb (by decide)
    exact decode_of_ne h43 h37 e
  | space => exact decode_plus e
  | escaped _ _ hh hl =>
    rw [List.cons_append, List.cons_append, List.cons_append, List.nil_append, decode_escape hh hl,
      Nat.div_add_mod, UInt8.ofNat_toNat]

theorem decode_encodes {k e : List UInt8} (h : Encodes k e) : decode e = k := by
  induction h with
  | nil => rfl
  | cons hb _ ih => rw [decode_encodesByte hb, ih]

/-! ## Encoded texts -/

/-- A hexadecimal digit stands for itself. -/
theorem isUnreserved_of_hexValue {b : UInt8} {n : ℕ} (h : hexValue b = some n) : isUnreserved b := by
  rw [hexValue] at h
  simp only [isUnreserved, Bool.or_eq_true, Bool.and_eq_true, decide_eq_true_eq]
  split_ifs at h with h₁ h₂ h₃
  · simp [h₁]
  · simp only [UInt8.le_iff_toNat_le, UInt8.toNat_ofNat] at h₂ ⊢
    omega
  · simp only [UInt8.le_iff_toNat_le, UInt8.toNat_ofNat] at h₃ ⊢
    omega

/-- A form of a byte has no separator. -/
theorem mem_encodesByte {b c : UInt8} {e : List UInt8} (h : EncodesByte b e) (hc : c ∈ e) :
    isUnreserved c ∨ c = 43 ∨ c = 37 := by
  cases h with
  | unreserved hb => exact .inl (List.mem_singleton.1 hc ▸ hb)
  | space => exact .inr (.inl (List.mem_singleton.1 hc))
  | escaped _ _ hh hl =>
    simp only [List.mem_cons, List.not_mem_nil, or_false] at hc
    rcases hc with rfl | rfl | rfl
    · exact .inr (.inr rfl)
    · exact .inl (isUnreserved_of_hexValue hh)
    · exact .inl (isUnreserved_of_hexValue hl)

theorem Encodes.mem {k e : List UInt8} (h : Encodes k e) {c : UInt8} (hc : c ∈ e) :
    isUnreserved c ∨ c = 43 ∨ c = 37 := by
  induction h with
  | nil => cases hc
  | cons hb _ ih =>
    rcases List.mem_append.1 hc with hc | hc
    · exact mem_encodesByte hb hc
    · exact ih hc

theorem Encodes.separator_notMem {k e : List UInt8} (h : Encodes k e) : 61 ∉ e ∧ 38 ∉ e := by
  constructor <;> intro hc <;> have := h.mem hc <;> revert this <;> decide

/-- A text of unreserved bytes encodes itself only. -/
theorem Encodes.eq_of_unreserved {k e : List UInt8} (h : Encodes k e)
    (he : ∀ c ∈ e, isUnreserved c) : k = e := by
  induction h with
  | nil => rfl
  | cons hb _ ih =>
    have hk := ih fun c hc => he c (List.mem_append_right _ hc)
    cases hb with
    | unreserved _ => rw [hk, List.singleton_append]
    | space => exact absurd (he 43 (by simp)) (by decide)
    | escaped _ _ _ _ => exact absurd (he 37 (by simp)) (by decide)

/-- A text of unreserved bytes is encoded by itself only. -/
theorem Encodes.eq_of_unreserved_left {k e : List UInt8} (h : Encodes k e)
    (hk : ∀ c ∈ k, isUnreserved c) : k = e := by
  induction h with
  | nil => rfl
  | @cons b eb k e hb _ ih =>
    have hb' : isUnreserved b := hk b List.mem_cons_self
    cases hb with
    | unreserved _ => rw [ih fun c hc => hk c (List.mem_cons_of_mem _ hc), List.singleton_append]
    | space => exact absurd hb' (by decide)
    | escaped hn _ _ _ => exact absurd hb' hn

/-- A text of unreserved bytes encodes itself. -/
theorem encodes_self {k : List UInt8} (hk : ∀ c ∈ k, isUnreserved c) : Encodes k k := by
  induction k with
  | nil => exact .nil
  | cons b k ih =>
    exact .cons (.unreserved (hk b List.mem_cons_self)) (ih fun c hc => hk c (List.mem_cons_of_mem _ hc))

/-! ## Finding a field -/

section Name

variable {a : UInt8} {tl : List UInt8} (hname : ∀ c ∈ a :: tl, isUnreserved c)
  (ha : hexValue a = none)

include hname

/-- The separators are no part of a name. -/
theorem separator_notMem_name : 61 ∉ a :: tl ∧ 38 ∉ a :: tl := by
  constructor <;> intro hc <;> have := hname _ hc <;> revert this <;> decide

/-- The separator of pairs is not the start of a name. -/
theorem find_separator (r : List UInt8) :
    Search.find (a :: tl ++ [61]) (38 :: r) = (Search.find (a :: tl ++ [61]) r).map (· + 1) := by
  have hamp : a ≠ 38 := fun h => (separator_notMem_name hname).2 (h ▸ List.mem_cons_self)
  have hnot : ¬a :: tl ++ [61] <+: 38 :: r := fun h => hamp (List.cons_prefix_cons.1 h).1
  rw [Search.find, if_neg hnot]

include ha

/-- A name ends an encoded text only where it ends the text itself: it does not
    start within an escape. -/
theorem Encodes.suffix {k e : List UInt8} (h : Encodes k e) (hs : a :: tl <:+ e) : a :: tl <:+ k := by
  induction h with
  | nil => exact absurd (List.suffix_nil.1 hs) (List.cons_ne_nil a tl)
  | @cons b eb k e hb hk ih =>
    rcases List.suffix_or_suffix_of_suffix hs (List.suffix_append eb e) with hs' | ⟨x, hx⟩
    · exact (ih hs').trans (List.suffix_cons b k)
    rcases List.append_eq_cons_iff.1 hx with ⟨rfl, rfl⟩ | ⟨x, rfl, rfl⟩
    · exact (ih List.suffix_rfl).trans (List.suffix_cons b k)
    · -- The name starts within the encoding of `b`, of which it has the end `a :: x`.
      obtain ⟨t, ht⟩ := hs
      rw [← List.cons_append, ← List.append_assoc, List.append_cancel_right_eq] at ht
      have hmem : a ∈ eb := ht ▸ by simp
      cases hb with
      | unreserved _ =>
        -- Then it starts with `b` itself, and what follows encodes itself.
        have hk' := hk.eq_of_unreserved fun c hc =>
          hname c (List.mem_cons_of_mem _ (List.mem_append_right x hc))
        obtain ⟨-, hx⟩ | ⟨-, hx⟩ := List.append_eq_singleton_iff.1 ht
        · obtain ⟨rfl, rfl⟩ := List.cons.inj hx
          exact ⟨[], by simp [hk']⟩
        · cases hx
      | space => exact absurd (hname a List.mem_cons_self) (List.mem_singleton.1 hmem ▸ by decide)
      | escaped _ _ hh hl =>
        -- It starts neither with the percent sign nor with a digit.
        simp only [List.mem_cons, List.not_mem_nil, or_false] at hmem
        rcases hmem with rfl | rfl | rfl
        · exact absurd (hname _ List.mem_cons_self) (by decide)
        · rw [ha] at hh
          cases hh
        · rw [ha] at hl
          cases hl

/-- The name, followed by `=`, does not start in a pair whose key does not end in
    it. -/
theorem not_prefix_of_suffix {k ek v ev : List UInt8} (hk : Encodes k ek) (hv : Encodes v ev)
    (hnot : ¬a :: tl <:+ k) {r : List UInt8} (hr : r = [] ∨ ∃ r', r = 38 :: r')
    {s : List UInt8} (hs : s <:+ ek ++ 61 :: ev) : ¬a :: tl ++ [61] <+: s ++ r := by
  rintro ⟨z, hz⟩
  rw [List.append_assoc, List.singleton_append] at hz
  obtain ⟨heq, hamp⟩ := separator_notMem_name hname
  have hsep : ∀ z', r ≠ 61 :: z' := by
    rintro z' rfl
    rcases hr with h | ⟨r', h⟩ <;> simp at h
  rcases List.suffix_or_suffix_of_suffix hs (List.suffix_append ek (61 :: ev)) with hs' | ⟨k₂, rfl⟩
  · rcases List.suffix_cons_iff.1 hs' with rfl | hs'
    · -- From the `=` on: the name does not start with one.
      exact heq ((List.cons.inj hz).1 ▸ List.mem_cons_self)
    · -- Within the value, which has no `=`, up to the next pair.
      have hs61 : 61 ∉ s := fun h => hv.separator_notMem.1 (hs'.subset h)
      rcases List.append_eq_append_iff.1 hz with ⟨w, rfl, hw⟩ | ⟨w, hw, rfl⟩
      · cases w with
        | nil => exact hsep z hw.symm
        | cons y w => exact hs61 ((List.cons.inj hw).1 ▸ by simp)
      · cases w with
        | nil => exact hsep z rfl
        | cons y w =>
          rcases hr with h | ⟨r', h⟩
          · cases h
          · obtain ⟨rfl, -⟩ := List.cons.inj h
            exact hamp (hw ▸ by simp)
  · -- From within the key: the name is its end.
    rw [List.append_assoc] at hz
    obtain ⟨ek', hek⟩ := hs
    rw [← List.append_assoc, List.append_cancel_right_eq] at hek
    have hk₂ : 61 ∉ k₂ := fun h => hk.separator_notMem.1 (hek ▸ List.mem_append_right _ h)
    obtain ⟨rfl, -⟩ := Search.append_cons_inj heq hk₂ hz
    exact hnot (hk.suffix hname ha ⟨ek', hek⟩)

/-- The name, followed by `=`, is not found in a pair whose key does not end in
    it, and found behind it where it is found in what follows. -/
theorem find_pair {k ek v ev : List UInt8} (hk : Encodes k ek) (hv : Encodes v ev)
    (hnot : ¬a :: tl <:+ k) {r : List UInt8} (hr : r = [] ∨ ∃ r', r = 38 :: r') :
    Search.find (a :: tl ++ [61]) (ek ++ 61 :: ev ++ r) =
      (Search.find (a :: tl ++ [61]) r).map (· + (ek ++ 61 :: ev).length) :=
  Search.find_skip fun _ hs _ => not_prefix_of_suffix hname ha hk hv hnot hr hs

/-- When the name ends no key, it is not found, followed by `=`. -/
theorem find_field_none {ps : List (List UInt8 × List UInt8)} {body : List UInt8}
    (h : Serializes ps body) (hnot : ∀ p ∈ ps, ¬a :: tl <:+ p.1) :
    Search.find (a :: tl ++ [61]) body = none := by
  induction h with
  | nil => simp [Search.find]
  | single hk hv =>
    have := find_pair hname ha hk hv (hnot _ List.mem_cons_self) (.inl rfl)
    rwa [List.append_nil, Search.find, if_neg (by simp), Option.map_none] at this
  | cons hk hv _ ih =>
    rw [find_pair hname ha hk hv (hnot _ List.mem_cons_self) (.inr ⟨_, rfl⟩),
      find_separator hname, ih fun p hp => hnot p (List.mem_cons_of_mem _ hp)]
    rfl

/-- When the name ends no key before the first one equal to it, it is first
    found, followed by `=`, in that pair, whose value follows up to the next `&`. -/
theorem find_field_some {ps₁ ps₂ : List (List UInt8 × List UInt8)} {v body : List UInt8}
    (h : Serializes (ps₁ ++ (a :: tl, v) :: ps₂) body) (hnot : ∀ p ∈ ps₁, ¬a :: tl <:+ p.1) :
    ∃ pre ev r, body = pre ++ (a :: tl ++ [61] ++ (ev ++ r)) ∧
      Search.find (a :: tl ++ [61]) body = some pre.length ∧ Encodes v ev ∧
      (r = [] ∨ ∃ r', r = 38 :: r') := by
  generalize hps : ps₁ ++ (a :: tl, v) :: ps₂ = ps at h
  induction h generalizing ps₁ with
  | nil => simp at hps
  | @single k v' ek ev hk hv =>
    obtain ⟨rfl, hpair⟩ | ⟨_, -, hpair⟩ := List.append_eq_cons_iff.1 hps
    · obtain ⟨⟨rfl, rfl⟩, -⟩ : (a :: tl = k ∧ v = v') ∧ _ := by simpa using hpair
      obtain rfl := hk.eq_of_unreserved_left hname
      refine ⟨[], ev, [], by simp, Search.find_of_prefix ⟨ev, by simp⟩, hv, .inl rfl⟩
    · simp at hpair
  | @cons k v' ek ev body p ps hk hv hps' ih =>
    obtain ⟨rfl, hpair⟩ | ⟨ps₁, rfl, hrest⟩ := List.append_eq_cons_iff.1 hps
    · obtain ⟨⟨rfl, rfl⟩, -⟩ : (a :: tl = k ∧ v = v') ∧ _ := by simpa using hpair
      obtain rfl := hk.eq_of_unreserved_left hname
      refine ⟨[], ev, 38 :: body, by simp, Search.find_of_prefix ⟨ev ++ 38 :: body, by simp⟩, hv,
        .inr ⟨body, rfl⟩⟩
    · -- The pair before is skipped, and the separator after it.
      obtain ⟨pre, ev', r, rfl, hfind, hv', hr⟩ :=
        ih (fun q hq => hnot q (List.mem_cons_of_mem _ hq)) hrest.symm
      refine ⟨ek ++ 61 :: ev ++ 38 :: pre, ev', r, by simp, ?_, hv', hr⟩
      rw [find_pair hname ha hk hv (hnot _ List.mem_cons_self) (.inr ⟨_, rfl⟩),
        find_separator hname, hfind]
      simp only [Option.map_some, List.length_append, List.length_cons]
      congr 1
      omega

end Name

end Form
