import OpenLawsVpn.Lib.Base64
import OpenLawsVpn.Lib.Form
import OpenLawsVpn.Text

/-!
# The SAML token

The capture server of the CLI (`SAMLServer::run`) gets the token out of the body
of the request: the text after the first `SAMLResponse=`, up to the next `&`,
form-decoded (`urlDecode`) and brought into the standard base64 alphabet with
padding (`normalizeBase64`).

The search is in the body as it is encoded. It is right all the same for a
serialised form (`extractToken_serializes`): the name is found only at a key
ending in it, and the decoder undoes the encoding (`urlDecode_encodes`), up to
the end of the text.

* `urlDecode_percent`, `urlDecode_hex`, `urlDecode_of_ne`: the decoder, byte by byte;
* `mem_normalizeBase64`: what a normalised text is made of;
* `extractToken_of_found`: the token, once the name is found;
* `extractToken_serializes`: the token of every serialised form, in every encoding of it.
-/

namespace OpenLawsVpn

/-! ## Decoding -/

/-- White space, as formatted extraction skips it. -/
def isSpace (b : UInt8) : Bool := b = 32 || (9 ≤ b && b ≤ 13)

/-- Formatted extraction of a hexadecimal `int` (`ss >> std::hex >> value`) from a
    text of two bytes: white space is skipped, then a sign and a prefix `0x` are
    taken, and the digits up to the first other byte. -/
def scanHex (s : Bytes) : Option ℤ :=
  let s := s.dropWhile isSpace
  let negative := s.head? = some 45
  let s := if negative ∨ s.head? = some 43 then s.tail else s
  let s := match s with
    | 48 :: x :: t => if x = 120 ∨ x = 88 then t else s
    | _ => s
  let digits := s.takeWhile fun b => (Form.hexValue b).isSome
  let value : ℕ := digits.foldl (fun n b => 16 * n + (Form.hexValue b).getD 0) 0
  if digits = [] then none else some (if negative then -value else value)

/-- `url_decode`. An escape takes the two bytes after the percent sign, if there
    are two, whether or not a number is extracted from them. -/
def urlDecode : Bytes → Bytes
  | [] => []
  | c :: rest =>
    if c = 43 then 32 :: urlDecode rest
    else if c = 37 then
      match rest with
      | h :: l :: rest =>
        (match scanHex [h, l] with
          | some value => [UInt8.ofInt value]
          | none => [c, h, l]) ++ urlDecode rest
      | rest => c :: urlDecode rest
    else c :: urlDecode rest

/-! ## Normalising -/

/-- The byte added for a byte of the text, if any: a space is a `+` that a
    decoder has turned into one. -/
def keepBase64 (c : UInt8) : Option UInt8 :=
  if c = 32 then some 43
  else if (65 ≤ c && c ≤ 90) || (97 ≤ c && c ≤ 122) || (48 ≤ c && c ≤ 57) || c = 43 || c = 47 ||
      c = 45 || c = 95 then some c
  else none

/-- A byte of the URL-safe alphabet in the standard one. -/
def standardAlphabet (c : UInt8) : UInt8 := if c = 45 then 43 else if c = 95 then 47 else c

/-- At most `n` rounds of the loop padding a text to a multiple of four. -/
def fixPadding : ℕ → Bytes → Bytes
  | 0, res => res
  | n + 1, res => if res.length % 4 ≠ 0 then fixPadding n (res ++ [61]) else res

/-- `normalize_base64`. -/
def normalizeBase64 (str : Bytes) : Bytes :=
  fixPadding 3 ((str.filterMap keepBase64).map standardAlphabet)

/-- Three rounds are enough: the loop ends with the padding due to the length. -/
theorem fixPadding_three (res : Bytes) :
    fixPadding 3 res = res ++ List.replicate ((4 - res.length % 4) % 4) 61 := by
  obtain h | h | h | h : res.length % 4 = 0 ∨ res.length % 4 = 1 ∨ res.length % 4 = 2 ∨
      res.length % 4 = 3 := by omega
  all_goals
    have h₁ : (res.length + 1) % 4 = (res.length % 4 + 1) % 4 := by omega
    have h₂ : (res.length + 1 + 1) % 4 = (res.length % 4 + 2) % 4 := by omega
    simp [fixPadding, h, h₁, h₂]

/-- What is kept is in the standard alphabet, or brought into it. -/
theorem isStandard_of_keepBase64 {a c : UInt8} (h : keepBase64 a = some c) :
    Base64.isStandard (standardAlphabet c) := by
  grind [keepBase64, standardAlphabet, Base64.isStandard]

/-- A normalised text has only symbols of the standard alphabet and `=`. -/
theorem mem_normalizeBase64 {str : Bytes} {b : UInt8} (h : b ∈ normalizeBase64 str) :
    Base64.isStandard b ∨ b = 61 := by
  rw [normalizeBase64, fixPadding_three] at h
  rcases List.mem_append.1 h with h | h
  · obtain ⟨c, hc, rfl⟩ := List.mem_map.1 h
    obtain ⟨a, -, ha⟩ := List.mem_filterMap.1 hc
    exact .inl (isStandard_of_keepBase64 ha)
  · exact .inr (List.eq_of_mem_replicate h)

/-! ## Extraction -/

/-- The extraction of the token from the body: the token, or the exception. -/
def extractToken (body : Bytes) : Except Bytes Bytes :=
  match Search.find (lit "SAMLResponse=") body with
  | some pos =>
    let start := pos + 13
    let token := match Search.findFrom (lit "&") body start with
      | none => body.drop start
      | some stop => substr body start (stop - start)
    .ok (normalizeBase64 (urlDecode token))
  | none => .error (lit "Failed to capture SAML response: SAMLResponse key not found")

/-! ## Serialised forms -/

open Form

/-- A hexadecimal digit is no white space, sign or letter of a prefix. -/
theorem hexDigit_ne {b : UInt8} {n : ℕ} (h : hexValue b = some n) :
    isSpace b = false ∧ b ≠ 43 ∧ b ≠ 45 ∧ b ≠ 120 ∧ b ≠ 88 := by
  grind [hexValue, isSpace]

/-- After white space, the first byte is read as the second one alone would be. -/
theorem scanHex_of_isSpace {h : UInt8} (hh : isSpace h = true) (l : UInt8) :
    scanHex [h, l] = (hexValue l).map fun n : ℕ => (n : ℤ) := by
  cases hl : hexValue l with
  | some n =>
    obtain ⟨hsp, h43, h45, -, -⟩ := hexDigit_ne hl
    simp [scanHex, hh, hsp, h43, h45, hl]
  | none =>
    by_cases hsp : isSpace l
    · simp [scanHex, hh, hsp]
    · by_cases hsign : l = 45 ∨ l = 43
      · simp [scanHex, hh, hsp, hsign]
      · simp [scanHex, hh, hsp, hsign, hl]

/-- A sign is read as part of the number. -/
theorem scanHex_of_sign {h : UInt8} (hh : h = 45 ∨ h = 43) (l : UInt8) :
    scanHex [h, l] = (hexValue l).map fun n : ℕ => if h = 45 then -(n : ℤ) else n := by
  have hsp : isSpace h = false := by rcases hh with rfl | rfl <;> rfl
  cases hl : hexValue l with
  | some n => simp [scanHex, hsp, hh, hl]
  | none => simp [scanHex, hsp, hh, hl]

/-- Else the digits at the start are read, unless they are a prefix without digits. -/
theorem scanHex_of_ne {h : UInt8} (hsp : isSpace h = false) (h43 : h ≠ 43) (h45 : h ≠ 45)
    (l : UInt8) :
    scanHex [h, l] =
      if h = 48 ∧ (l = 120 ∨ l = 88) then none
      else (hexValue h).map fun m : ℕ =>
        ((((hexValue l).map fun n => 16 * m + n).getD m : ℕ) : ℤ) := by
  by_cases hpre : h = 48 ∧ (l = 120 ∨ l = 88)
  · obtain ⟨rfl, hx⟩ := hpre
    rw [if_pos ⟨rfl, hx⟩]
    simp [scanHex, hsp, hx]
  · rw [if_neg hpre]
    have hmatch : (match [h, l] with
        | 48 :: x :: t => if x = 120 ∨ x = 88 then t else [h, l]
        | _ => [h, l]) = [h, l] := by
      split
      · rename_i heq
        simp only [List.cons.injEq] at heq
        obtain ⟨rfl, rfl, rfl⟩ := heq
        rw [if_neg fun hx => hpre ⟨rfl, hx⟩]
      · rfl
    cases hh : hexValue h with
    | none => simp [scanHex, hsp, h43, h45, hmatch, hh]
    | some m =>
      cases hl : hexValue l with
      | none => simp [scanHex, hsp, h43, h45, hmatch, hh, hl]
      | some n => simp [scanHex, hsp, h43, h45, hmatch, hh, hl]

/-- Two hexadecimal digits are extracted as their value. -/
theorem scanHex_digits {h l : UInt8} {m n : ℕ} (hh : hexValue h = some m) (hl : hexValue l = some n) :
    scanHex [h, l] = some ((16 * m + n : ℕ) : ℤ) := by
  obtain ⟨hsp, h43, h45, -, -⟩ := hexDigit_ne hh
  obtain ⟨-, -, -, hx, hX⟩ := hexDigit_ne hl
  rw [scanHex_of_ne hsp h43 h45, if_neg fun hpre => hpre.2.elim hx hX, hh, hl]
  rfl

theorem urlDecode_plus (rest : Bytes) : urlDecode (43 :: rest) = 32 :: urlDecode rest := by
  rw [urlDecode.eq_def]
  simp

/-- Other bytes than `+` and `%` stand for themselves. -/
theorem urlDecode_of_ne {c : UInt8} (h43 : c ≠ 43) (h37 : c ≠ 37) (rest : Bytes) :
    urlDecode (c :: rest) = c :: urlDecode rest := by
  rw [urlDecode.eq_def]
  simp [h43, h37]

/-- After `%`, two bytes are scanned for a number, or copied. -/
theorem urlDecode_percent (h l : UInt8) (rest : Bytes) :
    urlDecode (37 :: h :: l :: rest) = (match scanHex [h, l] with
      | some value => [UInt8.ofInt value]
      | none => [37, h, l]) ++ urlDecode rest := by
  rw [urlDecode.eq_def]
  rfl

/-- Two hexadecimal digits are a byte. -/
theorem urlDecode_hex {h l : UInt8} {m n : ℕ} (hh : hexValue h = some m) (hl : hexValue l = some n)
    (rest : Bytes) :
    urlDecode (37 :: h :: l :: rest) = UInt8.ofNat (16 * m + n) :: urlDecode rest := by
  have hbyte : UInt8.ofInt ((16 * m + n : ℕ) : ℤ) = UInt8.ofNat (16 * m + n) := by
    rw [← UInt8.toNat_inj, UInt8.ofInt]
    simp only [UInt8.toNat_ofNat']
    omega
  rw [urlDecode_percent, scanHex_digits hh hl]
  dsimp only
  rw [hbyte, List.singleton_append]

theorem urlDecode_escape {b h l : UInt8} (hh : hexValue h = some (b.toNat / 16))
    (hl : hexValue l = some (b.toNat % 16)) (rest : Bytes) :
    urlDecode (37 :: h :: l :: rest) = b :: urlDecode rest := by
  rw [urlDecode_hex hh hl, Nat.div_add_mod, UInt8.ofNat_toNat]

theorem urlDecode_encodesByte {b : UInt8} {e : Bytes} (h : EncodesByte b e) (rest : Bytes) :
    urlDecode (e ++ rest) = b :: urlDecode rest := by
  cases h with
  | unreserved hb =>
    have h43 : b ≠ 43 := by rintro rfl; exact absurd hb (by decide)
    have h37 : b ≠ 37 := by rintro rfl; exact absurd hb (by decide)
    exact urlDecode_of_ne h43 h37 rest
  | space => exact urlDecode_plus rest
  | escaped _ _ hh hl => exact urlDecode_escape hh hl rest

/-- The decoder undoes the encoding, byte for byte. -/
theorem urlDecode_encodes {k e : Bytes} (h : Encodes k e) : urlDecode e = k := by
  induction h with
  | nil => rfl
  | cons hb _ ih => rw [urlDecode_encodesByte hb, ih]

theorem extractToken_of_notFound {body : Bytes} (h : Search.find (lit "SAMLResponse=") body = none) :
    extractToken body =
      .error (lit "Failed to capture SAML response: SAMLResponse key not found") := by
  rw [extractToken, h]

/-- The text after the name, up to the next `&`, is decoded and normalised. -/
theorem extractToken_of_found {pre ev r : Bytes} (hamp : 38 ∉ ev) (hr : r = [] ∨ ∃ r', r = 38 :: r')
    (h : Search.find (lit "SAMLResponse=") (pre ++ (lit "SAMLResponse=" ++ (ev ++ r))) =
      some pre.length) :
    extractToken (pre ++ (lit "SAMLResponse=" ++ (ev ++ r))) = .ok (normalizeBase64 (urlDecode ev)) := by
  have hstart : pre.length + 13 = (pre ++ lit "SAMLResponse=").length := by
    rw [List.length_append]
    rfl
  rw [extractToken, h]
  simp only [hstart, ← List.append_assoc pre, Search.findFrom_append]
  rcases hr with rfl | ⟨r, rfl⟩
  · rw [List.append_nil, show lit "&" = [38] from rfl, Search.find_singleton_eq_none_iff.2 hamp]
    simp
  · rw [show lit "&" = [38] from rfl, Search.find_singleton hamp]
    simp [substr]

/-- The token of a serialised form is the value of its first `SAMLResponse`,
    normalised, provided that no other key ends in that name; without such a key,
    there is none. -/
theorem extractToken_serializes {ps : List (Bytes × Bytes)} {body : Bytes} (h : Serializes ps body)
    (hkeys : ∀ p ∈ ps, lit "SAMLResponse" <:+ p.1 → p.1 = lit "SAMLResponse") :
    extractToken body = match ps.find? (·.1 = lit "SAMLResponse") with
      | some p => .ok (normalizeBase64 p.2)
      | none => .error (lit "Failed to capture SAML response: SAMLResponse key not found") := by
  have hname : ∀ c ∈ lit "SAMLResponse", isUnreserved c := by decide
  cases hfind : ps.find? (·.1 = lit "SAMLResponse") with
  | none =>
    have hnot : ∀ p ∈ ps, ¬lit "SAMLResponse" <:+ p.1 := fun p hp hs => by
      simpa [hkeys p hp hs] using List.find?_eq_none.1 hfind p hp
    exact extractToken_of_notFound (find_field_none hname rfl h hnot)
  | some p =>
    obtain ⟨hp, ps₁, ps₂, rfl, hbefore⟩ := List.find?_eq_some_iff_append.1 hfind
    obtain ⟨k, v⟩ := p
    obtain rfl : k = lit "SAMLResponse" := by simpa using hp
    have hnot : ∀ p ∈ ps₁, ¬lit "SAMLResponse" <:+ p.1 := fun p hp hs => by
      simpa [hkeys p (List.mem_append_left _ hp) hs] using hbefore p hp
    obtain ⟨pre, ev, r, rfl, hpos, hv, hr⟩ := find_field_some hname rfl h hnot
    have := extractToken_of_found hv.separator_notMem.2 hr hpos
    rw [urlDecode_encodes hv] at this
    exact this

/-- The form with a `RelayState`, and the response `YQ=` whose padding is escaped. -/
theorem extractToken_relayState :
    extractToken (lit "RelayState=x&SAMLResponse=YQ%3d") = .ok (lit "YQ==") := by
  have hpadding : Encodes (lit "=") (lit "%3d" ++ []) :=
    .cons (.escaped (by decide) (by decide) rfl rfl) .nil
  have hvalue : Encodes (lit "YQ=") (lit "YQ%3d") :=
    .cons (.unreserved (by decide)) (.cons (.unreserved (by decide)) hpadding)
  have hform : Serializes
      [(lit "RelayState", lit "x"), (lit "SAMLResponse", lit "YQ=")]
      (lit "RelayState=x&SAMLResponse=YQ%3d") :=
    .cons (encodes_self (by decide)) (encodes_self (by decide))
      (.single (encodes_self (by decide)) hvalue)
  exact (extractToken_serializes hform (by decide)).trans (by decide)

end OpenLawsVpn
