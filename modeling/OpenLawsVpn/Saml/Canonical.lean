import OpenLawsVpn.Saml.Agreement

/-!
# The canonical token

A SAML response is changed on its way to the capture server: some symbols are
those of the URL-safe alphabet, a `+` may have become a space, the padding may be
missing, and anything may stand in between (`Mangled`). The CLI gets the
standard form back (`normalizeBase64_canonical`): what it keeps of a text does
not change on the way (`Mangled.kept_eq`), and the padding is due to what is kept.

Normalising once more changes nothing, whatever the text.

* `Mangled`: how a text may be changed on its way, as a relation between texts;
* `normalizeBase64_canonical`: for every response and every way in which it is mangled, and, for
  every text, that normalising is idempotent;
* `normalizeBase64_mangled`: two responses mangled in every way at once.
-/

namespace OpenLawsVpn

open Base64

/-- A byte that belongs to no base64 text, in either alphabet, and is no space. -/
def isJunk (c : UInt8) : Bool := !isStandard c && c ≠ 45 && c ≠ 95 && c ≠ 32

/-- The second text is what became of the first one, a base64 text: any `+` is
    replaced by a `-` or a space, any `/` by a `_`, any `=` is dropped, and junk is
    inserted anywhere. -/
inductive Mangled : Bytes → Bytes → Prop
  | nil : Mangled [] []
  | keep (c : UInt8) {b t : Bytes} : Mangled b t → Mangled (c :: b) (c :: t)
  | plusHyphen {b t : Bytes} : Mangled b t → Mangled (43 :: b) (45 :: t)
  | plusSpace {b t : Bytes} : Mangled b t → Mangled (43 :: b) (32 :: t)
  | slash {b t : Bytes} : Mangled b t → Mangled (47 :: b) (95 :: t)
  | dropPadding {b t : Bytes} : Mangled b t → Mangled (61 :: b) t
  | insert {c : UInt8} {b t : Bytes} : isJunk c → Mangled b t → Mangled b (c :: t)

/-- What is kept of a text, in the standard alphabet. -/
def kept (str : Bytes) : Bytes := (str.filterMap keepBase64).map standardAlphabet

/-- What is normalised is what is kept, with its padding. -/
theorem normalizeBase64_eq (str : Bytes) :
    normalizeBase64 str = kept str ++ padding (kept str).length := by
  rw [normalizeBase64, fixPadding_three]
  rfl

theorem kept_cons_of_none {c : UInt8} (h : keepBase64 c = none) (str : Bytes) :
    kept (c :: str) = kept str := by
  rw [kept, List.filterMap_cons_none h, kept]

theorem kept_cons_of_some {c c' : UInt8} (h : keepBase64 c = some c') (str : Bytes) :
    kept (c :: str) = standardAlphabet c' :: kept str := by
  rw [kept, List.filterMap_cons_some h, List.map_cons, kept]

theorem keepBase64_eq_none_of_isJunk {c : UInt8} (h : isJunk c = true) : keepBase64 c = none := by
  grind [isJunk, isStandard, keepBase64]

/-- A symbol of the standard alphabet is kept as it is. -/
theorem keepBase64_of_isStandard {c : UInt8} (h : isStandard c = true) :
    keepBase64 c = some c ∧ standardAlphabet c = c := by
  have hne : c ≠ 32 ∧ c ≠ 45 ∧ c ≠ 95 := by
    refine ⟨?_, ?_, ?_⟩ <;> rintro rfl <;> exact absurd h (by decide)
  constructor
  · grind [isStandard, keepBase64]
  · rw [standardAlphabet, if_neg hne.2.1, if_neg hne.2.2]

/-- What is kept of a text does not change on its way. -/
theorem Mangled.kept_eq {b t : Bytes} (h : Mangled b t) : kept t = kept b := by
  -- A symbol that is replaced is kept as the same value, and junk is not kept.
  induction h with
  | nil => rfl
  | keep c _ ih =>
    cases hc : keepBase64 c with
    | none => rw [kept_cons_of_none hc, kept_cons_of_none hc, ih]
    | some c' => rw [kept_cons_of_some hc, kept_cons_of_some hc, ih]
  | plusHyphen _ ih =>
    rw [kept_cons_of_some (show keepBase64 45 = some 45 from rfl),
      kept_cons_of_some (show keepBase64 43 = some 43 from rfl), ih]
    rfl
  | plusSpace _ ih =>
    rw [kept_cons_of_some (show keepBase64 32 = some 43 from rfl),
      kept_cons_of_some (show keepBase64 43 = some 43 from rfl), ih]
  | slash _ ih =>
    rw [kept_cons_of_some (show keepBase64 95 = some 95 from rfl),
      kept_cons_of_some (show keepBase64 47 = some 47 from rfl), ih]
    rfl
  | dropPadding _ ih => rw [ih, kept_cons_of_none rfl]
  | insert hjunk _ ih => rw [kept_cons_of_none (keepBase64_eq_none_of_isJunk hjunk), ih]

/-- The standard form of a text has no line ends in it. -/
theorem isText_encode (d : Bytes) : IsText d (encode {} d) := by
  refine ⟨{}, List.filter_eq_self.2 fun b hb => ?_⟩
  have := mem_encode_standard hb
  grind [isStandard]

/-- Whatever was done to the standard form on the way, it is restored. -/
theorem Mangled.normalizeBase64_eq {d t : Bytes} (h : Mangled (encode {} d) t) :
    normalizeBase64 t = encode {} d := by
  rw [OpenLawsVpn.normalizeBase64_eq, h.kept_eq, ← OpenLawsVpn.normalizeBase64_eq,
    normalizeBase64_isText (isText_encode d)]

/-- What is kept is in the standard alphabet. -/
theorem isStandard_of_mem_kept {str : Bytes} {b : UInt8} (h : b ∈ kept str) : isStandard b := by
  obtain ⟨c, hc, rfl⟩ := List.mem_map.1 h
  obtain ⟨a, -, ha⟩ := List.mem_filterMap.1 hc
  exact isStandard_of_keepBase64 ha

/-- Symbols of the standard alphabet, and padding after them. -/
theorem kept_append_padding {s : Bytes} (h : ∀ b ∈ s, isStandard b) (n : ℕ) :
    kept (s ++ padding n) = s := by
  induction s with
  | nil =>
    rw [List.nil_append, kept, List.filterMap_eq_nil_iff.2, List.map_nil]
    intro b hb
    rw [eq_of_mem_padding hb]
    rfl
  | cons b s ih =>
    obtain ⟨hkeep, hstandard⟩ := keepBase64_of_isStandard (h b List.mem_cons_self)
    rw [List.cons_append, kept_cons_of_some hkeep, hstandard,
      ih fun b hb => h b (List.mem_cons_of_mem _ hb)]

/-- To normalise twice is to normalise once. -/
theorem normalizeBase64_idempotent (str : Bytes) :
    normalizeBase64 (normalizeBase64 str) = normalizeBase64 str := by
  have hkept : kept (normalizeBase64 str) = kept str := by
    rw [normalizeBase64_eq str]
    exact kept_append_padding (fun b hb => isStandard_of_mem_kept hb) _
  rw [normalizeBase64_eq (normalizeBase64 str), hkept, ← normalizeBase64_eq]

/-- Whatever became of the standard form of a text, normalising gets it back; and
    what is normalised stays as it is. -/
theorem normalizeBase64_canonical :
    (∀ d t : Bytes, Mangled (encode {} d) t → normalizeBase64 t = encode {} d) ∧
      ∀ str : Bytes, normalizeBase64 (normalizeBase64 str) = normalizeBase64 str :=
  ⟨fun _ _ h => h.normalizeBase64_eq, normalizeBase64_idempotent⟩

/-- `+/+/` and the padded `+w==`, mangled in every way. -/
theorem normalizeBase64_mangled :
    Mangled (lit "+/+/+w==") (lit " _-/\n+\tw=") ∧
      normalizeBase64 (lit " _-/\n+\tw=") = lit "+/+/+w==" := by
  have h : Mangled (encode {} [0xFB, 0xFF, 0xBF, 0xFB]) (lit " _-/\n+\tw=") :=
    .plusSpace (.slash (.plusHyphen (.keep 47 (.insert (c := 10) rfl (.keep 43 (.insert (c := 9) rfl
      (.keep 119 (.dropPadding (.keep 61 .nil)))))))))
  exact ⟨h, normalizeBase64_canonical.1 [0xFB, 0xFF, 0xBF, 0xFB] _ h⟩

end OpenLawsVpn
