import OpenLawsVpn.Gui.SamlServer
import OpenLawsVpn.Saml.Token

/-!
# The tokens of the two servers

The same form is posted to the capture server of the CLI or to that of the GUI.
The CLI drops every byte that is no symbol, brings the symbols into the standard
alphabet and pads them, so that its token is the standard form of any base64 text
(`normalizeBase64_isText`).

The GUI leaves the text as it is, but for spaces, and pads it by its length. So
the two tokens are the same exactly if the text has no line end and no symbol of
the URL-safe alphabet (`delivers_iff`).

* `normalizeBase64_isText`: what the CLI makes of a text, in all its forms;
* `delivers_iff`: the criterion, which is about the text sent only;
* `delivers_unpadded`: a text for which both servers have the same token;
* `delivers_urlSafe`: two texts for which they have not.
-/

namespace OpenLawsVpn

open Base64

/-! ## The CLI -/

/-- A symbol of either alphabet is kept, and brought into the standard one. -/
theorem standardAlphabet_symbol (v : Variant) {n : ℕ} (h : n < 64) :
    (keepBase64 (v.symbol n)).map standardAlphabet = some (standard n) := by
  have hall : ∀ urlSafe, ∀ n < 64, (keepBase64 (Variant.symbol ⟨urlSafe, true⟩ n)).map standardAlphabet =
      some (standard n) := by decide +kernel
  exact hall v.urlSafe n h

/-- Line ends are dropped. -/
theorem filterMap_keepBase64 (t : Bytes) :
    t.filterMap keepBase64 = (t.filter fun b => b ≠ 13 ∧ b ≠ 10).filterMap keepBase64 := by
  rw [List.filterMap_filter]
  congr 1
  funext b
  split_ifs with h
  · rfl
  · have hend : b = 13 ∨ b = 10 := by
      simp only [decide_eq_true_eq] at h
      tauto
    rcases hend with rfl | rfl <;> rfl

/-- The CLI makes the standard form of a text of base64. -/
theorem normalizeBase64_isText {d t : Bytes} (h : IsText d t) : normalizeBase64 t = encode {} d := by
  obtain ⟨v, hv⟩ := h
  have hsymbols : (((sextets d).map v.symbol).filterMap keepBase64).map standardAlphabet =
      (sextets d).map standard := by
    rw [List.map_filterMap, List.filterMap_map, ← List.filterMap_eq_map]
    exact List.filterMap_congr fun n hn => standardAlphabet_symbol v (lt_of_mem_sextets hn)
  have hpadding : (if v.padded then padding (sextets d).length else []).filterMap keepBase64 = [] := by
    rw [List.filterMap_eq_nil_iff]
    intro b hb
    split_ifs at hb
    · rw [eq_of_mem_padding hb]
      rfl
    · cases hb
  rw [normalizeBase64, filterMap_keepBase64, hv, encode, List.filterMap_append, hpadding,
    List.append_nil, hsymbols, fixPadding_three, List.length_map]
  rfl

/-- The token that the CLI gets out of a form with this value. -/
theorem extractToken_encodes {t e : Bytes} (h : Form.Encodes t e) :
    extractToken (lit "SAMLResponse=" ++ e) = .ok (normalizeBase64 t) := by
  have hfind : Search.find (lit "SAMLResponse=") ([] ++ (lit "SAMLResponse=" ++ (e ++ []))) = some 0 :=
    Search.find_of_prefix (List.prefix_append _ _)
  have hfound := extractToken_of_found h.separator_notMem.2 (.inl rfl) hfind
  rwa [List.nil_append, List.append_nil, urlDecode_encodes h] at hfound

/-! ## The GUI -/

/-- The character of a byte. -/
def byteChar (b : UInt8) : Char := Char.ofNat b.toNat

/-- The character of a byte has its number. -/
theorem toNat_byteChar (b : UInt8) : (byteChar b).toNat = b.toNat := by
  have hvalid : b.toNat.isValidChar := .inl (by have := b.toNat_lt; omega)
  rw [byteChar, Char.ofNat, dif_pos hvalid]
  rfl

theorem byteChar_injective : Function.Injective byteChar := fun b c h => by
  rw [← UInt8.toNat_inj, ← toNat_byteChar, h, toNat_byteChar]

/-- A text of bytes below 128 has a byte for each character. -/
theorem byteLength_map_byteChar {t : Bytes} (h : ∀ b ∈ t, b < 0x80) :
    byteLength (t.map byteChar) = t.length := by
  induction t with
  | nil => rfl
  | cons b t ih =>
    have hsize : (byteChar b).utf8Size = 1 := by
      rw [Char.utf8Size_eq_one_iff, UInt32.le_iff_toNat_le]
      have hb : b.toNat < 128 := UInt8.lt_iff_toNat_lt.1 (h b List.mem_cons_self)
      have hval : (byteChar b).val.toNat = b.toNat := toNat_byteChar b
      rw [hval]
      exact Nat.le_of_lt_succ hb
    rw [List.map_cons, byteLength, List.foldr_cons, ← byteLength, hsize,
      ih fun b hb => h b (List.mem_cons_of_mem _ hb), List.length_cons, Nat.add_comm]

theorem toStringLossy_ascii {t : Bytes} (h : ∀ b ∈ t, b < 0x80) :
    toStringLossy t = t.map byteChar := by
  have happend := Utf8.decode_ascii_append h []
  rwa [List.append_nil, show Utf8.decode .start [] = [] from rfl, List.append_nil] at happend

/-- Only the padding is added to a base64 text. -/
theorem SamlServer.normalizeBase64_isText {decode : Text → Option Text}
    (hdecode : ∀ s, '%' ∉ s → decode s = some s) {d t : Bytes} (h : IsText d t) :
    normalizeBase64 decode (toStringLossy t) = (t ++ padding t.length).map byteChar := by
  have hclosed : ∀ b, isStandard b ∨ b = 61 ∨ b = 45 ∨ b = 95 ∨ b = 13 ∨ b = 10 →
      b < 0x80 ∧ b ≠ 37 ∧ b ≠ 32 := by
    grind [isStandard]
  have hascii : ∀ b ∈ t, b < 0x80 := fun b hb => (hclosed b (h.mem hb)).1
  have hpercent : '%' ∉ t.map byteChar := by
    intro hmem
    obtain ⟨b, hb, heq⟩ := List.mem_map.1 hmem
    exact (hclosed b (h.mem hb)).2.1 (byteChar_injective (heq.trans (rfl : '%' = byteChar 37)))
  have hspace : (t.map byteChar).map (fun c => if c = ' ' then '+' else c) = t.map byteChar := by
    rw [List.map_map]
    refine List.map_congr_left fun b hb => if_neg fun heq => ?_
    exact (hclosed b (h.mem hb)).2.2 (byteChar_injective (heq.trans (rfl : ' ' = byteChar 32)))
  rw [toStringLossy_ascii hascii, normalizeBase64, hdecode _ hpercent, Option.getD_some]
  simp only [hspace]
  rw [byteLength_map_byteChar hascii, List.map_append, padding, List.map_replicate]
  rfl

/-- The GUI returns the value posted, normalised. -/
theorem SamlServer.captureSamlToken_post (decode : Text → Option Text) (value : Text) :
    captureSamlToken decode (.ok ()) [.post { samlResponse := some value }] false =
      some (.ok (normalizeBase64 decode value)) := by
  rw [captureSamlToken_eq]
  cases value <;> rfl

/-! ## Agreement -/

/-- Both servers return the standard form of `d` for the form with this value: the
    CLI for the body as it is sent, the GUI for the value decoded. -/
def Delivers (decode : Text → Option Text) (d e : Bytes) : Prop :=
  extractToken (lit "SAMLResponse=" ++ e) = .ok (encode {} d) ∧
    SamlServer.captureSamlToken decode (.ok ())
        [.post { samlResponse := some (toStringLossy (Form.decode e)) }] false =
      some (.ok (toStringLossy (encode {} d)))

/-- The servers deliver the standard form of `d` exactly if the text sent has no line
    end, no `-` and no `_`. -/
theorem delivers_iff {decode : Text → Option Text} (hdecode : ∀ s, '%' ∉ s → decode s = some s)
    {d t e : Bytes} (ht : IsText d t) (he : Form.Encodes t e) :
    Delivers decode d e ↔ ∀ b ∈ t, b ≠ 13 ∧ b ≠ 10 ∧ b ≠ 45 ∧ b ≠ 95 := by
  have hascii : ∀ b ∈ encode {} d, b < 0x80 := fun b hb => by
    have := mem_encode_standard hb
    grind [isStandard]
  rw [Delivers, extractToken_encodes he, normalizeBase64_isText ht, eq_self, true_and,
    SamlServer.captureSamlToken_post, Form.decode_encodes he,
    SamlServer.normalizeBase64_isText hdecode ht, toStringLossy_ascii hascii, Option.some_inj,
    Except.ok.injEq, (List.map_injective_iff.2 byteChar_injective).eq_iff]
  exact ht.append_padding_iff

/-- A text without padding, in the standard alphabet. -/
theorem delivers_unpadded : Delivers some [0x61] (lit "YQ") := by
  have htext : IsText [0x61] (lit "YQ") := ⟨{ padded := false }, by decide⟩
  exact (delivers_iff (fun _ _ => rfl) htext (Form.encodes_self (by decide))).2 (by decide)

/-- A text in the URL-safe alphabet, and one with a line end at its end: the GUI
    leaves them as they are. -/
theorem delivers_urlSafe :
    IsText [0xFF] (lit "_w") ∧ extractToken (lit "SAMLResponse=_w") = .ok (lit "/w==") ∧
    IsText [0x61] (lit "YQ==\r\n") ∧
      extractToken (lit "SAMLResponse=YQ%3D%3D%0D%0A") = .ok (lit "YQ==") ∧
    ∀ decode : Text → Option Text, (∀ s, '%' ∉ s → decode s = some s) →
      SamlServer.captureSamlToken decode (.ok ())
          [.post { samlResponse := some (toStringLossy (Form.decode (lit "_w"))) }] false =
        some (.ok "_w==".toList) ∧ ¬Delivers decode [0xFF] (lit "_w") ∧
      SamlServer.captureSamlToken decode (.ok ())
          [.post { samlResponse := some (toStringLossy (Form.decode (lit "YQ%3D%3D%0D%0A"))) }] false =
        some (.ok "YQ==\r\n==".toList) := by
  have htext : IsText [0xFF] (lit "_w") := ⟨{ urlSafe := true, padded := false }, by decide⟩
  have hlines : IsText [0x61] (lit "YQ==\r\n") := ⟨{}, by decide⟩
  refine ⟨htext, by decide +kernel, hlines, by decide +kernel, fun decode hdecode => ?_⟩
  have hcapture : SamlServer.captureSamlToken decode (.ok ())
      [.post { samlResponse := some (toStringLossy (Form.decode (lit "_w"))) }] false =
        some (.ok "_w==".toList) := by
    rw [SamlServer.captureSamlToken_post, show Form.decode (lit "_w") = lit "_w" by decide,
      SamlServer.normalizeBase64_isText hdecode htext]
    rfl
  refine ⟨hcapture, fun h => absurd (hcapture.symm.trans h.2) (by decide), ?_⟩
  rw [SamlServer.captureSamlToken_post,
    show Form.decode (lit "YQ%3D%3D%0D%0A") = lit "YQ==\r\n" by decide,
    SamlServer.normalizeBase64_isText hdecode hlines]
  rfl

end OpenLawsVpn
