import OpenLawsVpn.Saml.Token

/-!
# The decoder of the CLI and the one of forms

`url_decode` reads an escape by formatted extraction, and goes on after its two bytes
also when no number is extracted. So it decodes as a form is decoded (`Form.decode`)
exactly the texts that are *well escaped* (`urlDecode_eq_iff`): read from the left,
what follows a percent sign is an escape, or is neither read as a number nor changed
by the decoder of forms.

A text that is not well escaped is not decoded alike by accident. Where the outputs
do not differ at once, the percent sign that is copied is also the one that an escape
stands for (`%25`), and the two digits are missing from then on (`decode_ne`).

* `WellEscaped`: the condition on the text;
* `urlDecode_eq_iff`: the two decoders agree exactly on these texts;
* `urlDecode_ne`: a text on which they do not.
-/

namespace OpenLawsVpn

open Form

/-- No number is extracted from the two bytes. -/
def NoNumber (h l : UInt8) : Prop :=
  if isSpace h ∨ h = 43 ∨ h = 45 then hexValue l = none
  else hexValue h = none ∨ h = 48 ∧ (l = 120 ∨ l = 88)

/-- The two bytes after a percent sign are copied by both decoders: the bytes are no
    number, and neither of them is a `+` or starts an escape. -/
def Copied (h l : UInt8) (rest : Bytes) : Prop :=
  NoNumber h l ∧ h ≠ 43 ∧ l ≠ 43 ∧ ¬(h = 37 ∧ StartsHex (l :: rest)) ∧ ¬(l = 37 ∧ StartsHex rest)

/-- What follows each percent sign is an escape, or is copied as it is. -/
def WellEscaped : Bytes → Prop
  | [] => True
  | c :: rest =>
    if c = 37 then
      match rest with
      | h :: l :: rest => (StartsHex [h, l] ∨ Copied h l rest) ∧ WellEscaped rest
      | rest => WellEscaped rest
    else WellEscaped rest

theorem wellEscaped_of_ne {c : UInt8} (h : c ≠ 37) (rest : Bytes) :
    WellEscaped (c :: rest) ↔ WellEscaped rest := by
  rw [WellEscaped.eq_def]
  exact iff_of_eq (if_neg h)

/-- A `%` with two bytes after it starts an escape, or is copied with them. -/
theorem wellEscaped_percent (h l : UInt8) (rest : Bytes) :
    WellEscaped (37 :: h :: l :: rest) ↔
      (StartsHex [h, l] ∨ Copied h l rest) ∧ WellEscaped rest := by
  rw [WellEscaped.eq_def]
  exact iff_of_eq (if_pos rfl)

/-- A `%` at the end is copied. -/
theorem wellEscaped_short {rest : Bytes} (h : ∀ h l rest', rest = h :: l :: rest' → False) :
    WellEscaped (37 :: rest) ↔ WellEscaped rest := by
  rcases rest with _ | ⟨h', _ | ⟨l', rest⟩⟩
  · rfl
  · rfl
  · exact (h h' l' rest rfl).elim

/-! ## Escapes -/

/-- Nothing is scanned exactly if there is no number. -/
theorem scanHex_eq_none_iff {h l : UInt8} : scanHex [h, l] = none ↔ NoNumber h l := by
  rw [NoNumber]
  by_cases hsp : isSpace h = true
  · rw [scanHex_of_isSpace hsp, Option.map_eq_none_iff, if_pos (.inl hsp)]
  by_cases hsign : h = 45 ∨ h = 43
  · rw [scanHex_of_sign hsign, Option.map_eq_none_iff, if_pos (.inr hsign.symm)]
  · rw [not_or] at hsign
    rw [scanHex_of_ne (Bool.eq_false_of_not_eq_true hsp) hsign.2 hsign.1,
      if_neg (not_or.2 ⟨hsp, not_or.2 hsign.symm⟩)]
    split_ifs with hpre
    · exact iff_of_true rfl (.inr hpre)
    · rw [Option.map_eq_none_iff, or_iff_left hpre]

/-- What is extracted from other bytes than two digits is the value of one digit. -/
theorem lt_of_scanHex {h l : UInt8} {value : ℤ} (hscan : scanHex [h, l] = some value)
    (hhex : ¬StartsHex [h, l]) : -16 < value ∧ value < 16 := by
  -- A white space or a sign leaves one digit to read, and so does a second byte that is none.
  by_cases hsp : isSpace h = true
  · rw [scanHex_of_isSpace hsp] at hscan
    obtain ⟨n, hn, rfl⟩ := Option.map_eq_some_iff.1 hscan
    have := hexValue_lt hn
    omega
  by_cases hsign : h = 45 ∨ h = 43
  · rw [scanHex_of_sign hsign] at hscan
    obtain ⟨n, hn, rfl⟩ := Option.map_eq_some_iff.1 hscan
    have := hexValue_lt hn
    split_ifs <;> omega
  · rw [not_or] at hsign
    rw [scanHex_of_ne (Bool.eq_false_of_not_eq_true hsp) hsign.2 hsign.1] at hscan
    split_ifs at hscan
    obtain ⟨m, hm, rfl⟩ := Option.map_eq_some_iff.1 hscan
    have hl : hexValue l = none := by
      by_contra hl
      exact hhex ⟨by rw [hm]; rfl, Option.isSome_iff_ne_none.2 hl⟩
    have := hexValue_lt hm
    rw [hl, Option.map_none, Option.getD_none]
    omega

/-- Without two bytes after it, a percent sign is copied. -/
theorem urlDecode_short {rest : Bytes} (h : ∀ h l rest', rest = h :: l :: rest' → False) :
    urlDecode (37 :: rest) = 37 :: urlDecode rest ∧ ¬StartsHex rest := by
  rcases rest with _ | ⟨h', _ | ⟨l', rest⟩⟩
  · exact ⟨rfl, fun h => h⟩
  · exact ⟨rfl, fun h => h⟩
  · exact (h h' l' rest rfl).elim

/-! ## Two bytes behind -/

/-- The decoder of forms does not catch up when it is two digits behind. -/
theorem decode_ne {d e : UInt8} (hd : isDigit d = true) (he : isDigit e = true) (s : Bytes) :
    decode s ≠ d :: e :: urlDecode s := by
  have hne : ∀ {d : UInt8}, isDigit d = true → d ≠ 32 ∧ d ≠ 37 := by
    rintro d hd
    constructor <;> rintro rfl <;> exact absurd hd (by decide)
  induction s using urlDecode.induct generalizing d e with
  | case1 => exact (List.cons_ne_nil _ _).symm
  | case2 rest =>
    rw [decode_plus]
    exact fun heq => (hne hd).1 (List.cons.inj heq).1.symm
  | case3 h l rest _ ih =>
    by_cases hhex : StartsHex (h :: l :: rest)
    · obtain ⟨m, hm⟩ := Option.isSome_iff_exists.1 hhex.1
      obtain ⟨n, hn⟩ := Option.isSome_iff_exists.1 hhex.2
      rw [decode_escape hm hn, urlDecode_hex hm hn]
      intro heq
      obtain ⟨hv, htail⟩ := List.cons.inj heq
      exact ih he hd (hv ▸ htail)
    · rw [decode_percent hhex]
      exact fun heq => (hne hd).2 (List.cons.inj heq).1.symm
  | case4 rest hrest =>
    rw [decode_percent (urlDecode_short hrest).2]
    exact fun heq => (hne hd).2 (List.cons.inj heq).1.symm
  | case5 c rest h43 h37 ih =>
    rw [decode_of_ne h43 h37, urlDecode_of_ne h43 h37]
    intro heq
    obtain ⟨hc, htail⟩ := List.cons.inj heq
    exact ih he hd (hc ▸ htail)

/-- The only digits that stand for a percent sign. -/
theorem eq_of_hexValue {h l : UInt8} {m n : ℕ} (hh : hexValue h = some m) (hl : hexValue l = some n)
    (heq : UInt8.ofNat (16 * m + n) = 37) : h = 50 ∧ l = 53 := by
  have hm := hexValue_lt hh
  have hn := hexValue_lt hl
  have hvalue := congrArg UInt8.toNat heq
  rw [UInt8.toNat_ofNat', Nat.mod_eq_of_lt (by omega)] at hvalue
  rw [hexValue] at hh hl
  simp only [UInt8.le_iff_toNat_le, UInt8.toNat_ofNat, ← UInt8.toNat_inj] at *
  split_ifs at hh hl <;> simp only [Option.some.injEq] at hh hl <;> omega

/-- A byte is copied by the decoder of forms, unless it is a `+` or starts an escape. -/
theorem cons_eq_decode_iff {c : UInt8} {x e : Bytes}
    (hx : ∀ e', e = 50 :: 53 :: e' → x ≠ decode e') :
    c :: x = decode (c :: e) ↔ (c ≠ 43 ∧ ¬(c = 37 ∧ StartsHex e)) ∧ x = decode e := by
  by_cases h43 : c = 43
  · subst h43
    rw [decode_plus]
    exact iff_of_false (fun heq => by cases (List.cons.inj heq).1) fun h => h.1.1 rfl
  by_cases h37 : c = 37
  · subst h37
    -- The byte can be a percent sign that an escape stands for: `%25`.
    by_cases hhex : StartsHex e
    · refine iff_of_false (fun heq => ?_) fun h => h.1.2 ⟨rfl, hhex⟩
      obtain _ | ⟨h, _ | ⟨l, e⟩⟩ := e
      · exact hhex
      · exact hhex
      obtain ⟨m, hm⟩ := Option.isSome_iff_exists.1 hhex.1
      obtain ⟨n, hn⟩ := Option.isSome_iff_exists.1 hhex.2
      rw [decode_escape hm hn] at heq
      obtain ⟨hbyte, heq⟩ := List.cons.inj heq
      obtain ⟨rfl, rfl⟩ := eq_of_hexValue hm hn hbyte.symm
      exact hx e rfl heq
    · rw [decode_percent hhex, List.cons_inj_right]
      exact (and_iff_right ⟨h43, fun h => hhex h.2⟩).symm
  · rw [decode_of_ne h43 h37, List.cons_inj_right]
    exact (and_iff_right ⟨h43, fun h => h37 h.1⟩).symm

/-- After a percent sign, two bytes are copied by both decoders if they are no escape
    nor a number, and do not begin anything else. -/
theorem copied_iff {h l : UInt8} {rest : Bytes} (hscan : scanHex [h, l] = none) :
    h :: l :: urlDecode rest = decode (h :: l :: rest) ↔
      Copied h l rest ∧ urlDecode rest = decode rest := by
  have hdigit : ∀ e : Bytes, urlDecode (53 :: e) = 53 :: urlDecode e :=
    fun e => urlDecode_of_ne (by decide) (by decide) e
  rw [cons_eq_decode_iff, cons_eq_decode_iff, Copied, ← scanHex_eq_none_iff, ← and_assoc]
  · refine and_congr_left fun _ => ?_
    tauto
  · rintro e' rfl heq
    rw [urlDecode_of_ne (by decide) (by decide), hdigit] at heq
    exact decode_ne (by decide) (by decide) e' heq.symm
  · intro e' heq hx
    obtain ⟨rfl, rfl⟩ := List.cons.inj heq
    rw [hdigit] at hx
    exact decode_ne (by decide) (by decide) e' hx.symm

/-! ## Agreement -/

/-- The text is decoded as a form is decoded, exactly if it is well escaped. -/
theorem urlDecode_eq_iff (s : Bytes) : urlDecode s = decode s ↔ WellEscaped s := by
  induction s using urlDecode.induct with
  | case1 => exact iff_of_true rfl trivial
  | case2 rest ih =>
    rw [urlDecode_plus, decode_plus, List.cons_inj_right, ih, wellEscaped_of_ne (by decide)]
  | case3 h l rest _ ih =>
    rw [wellEscaped_percent, ← ih]
    by_cases hhex : StartsHex [h, l]
    · obtain ⟨m, hm⟩ := Option.isSome_iff_exists.1 hhex.1
      obtain ⟨n, hn⟩ := Option.isSome_iff_exists.1 hhex.2
      rw [urlDecode_hex hm hn, decode_escape hm hn, List.cons_inj_right]
      exact (and_iff_right (.inl hhex)).symm
    · rw [decode_percent (e := h :: l :: rest) hhex, urlDecode_percent, or_iff_right hhex]
      cases hscan : scanHex [h, l] with
      | none =>
        rw [← copied_iff hscan]
        exact List.cons_inj_right _
      | some value =>
        refine iff_of_false (fun heq => ?_) fun hcopied => ?_
        -- `sscanf` read one digit, so that its value is not that of the percent sign.
        · obtain ⟨hlower, hupper⟩ := lt_of_scanHex hscan hhex
          have hbyte := congrArg UInt8.toNat (List.cons.inj heq).1
          simp only [UInt8.ofInt, UInt8.toNat_ofNat', UInt8.reduceToNat] at hbyte
          omega
        · rw [scanHex_eq_none_iff.2 hcopied.1.1] at hscan
          cases hscan
  | case4 rest hrest _ ih =>
    obtain ⟨hdecode, hhex⟩ := urlDecode_short hrest
    rw [hdecode, decode_percent hhex, List.cons_inj_right, ih, wellEscaped_short hrest]
  | case5 c rest h43 h37 ih =>
    rw [urlDecode_of_ne h43 h37, decode_of_ne h43 h37, List.cons_inj_right, ih,
      wellEscaped_of_ne h37]

/-- A second percent sign hides an escape. -/
theorem urlDecode_ne : urlDecode (lit "100%%41") ≠ decode (lit "100%%41") := by
  decide +kernel

end OpenLawsVpn
