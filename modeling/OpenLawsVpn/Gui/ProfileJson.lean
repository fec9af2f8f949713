import OpenLawsVpn.Gui.LogCallback

/-!
# The JSON of a profile

The store writes a profile as JSON, and reads it again. The JSON library is a
parameter (`ProfileJson`), of which two things are relied on: what is encoded is
decoded again (`Decodes`), and no part of it is, from the beginning to before its end
(`Delimits`). A library for texts without control characters has both (`plainJson`).

* `unquote_escape`, `field_escape`: a text that was escaped is read back;
* `unquote_append`, `field_append`: what is read does not depend on what follows it;
* `plainJson_decodes`, `plainJson_delimits`: the two properties, which no proof about the store
  has by itself: it takes them as hypotheses.
-/

namespace OpenLawsVpn

/-- `Profile`. -/
structure Profile where
  id : Text
  name : Text
  createdAt : Text
  deriving DecidableEq, Repr

/-- `serde_json`, as far as it is used: `to_string` and `from_str`, for profiles. -/
structure ProfileJson where
  encode : Profile → Option Text
  decode : Text → Option Profile

namespace ProfileJson

/-- What is encoded is decoded again. -/
def Decodes (j : ProfileJson) : Prop := ∀ p, ∃ s, j.encode p = some s ∧ j.decode s = some p

/-- A text that is cut off is not decoded. -/
def Delimits (j : ProfileJson) : Prop :=
  ∀ p s t, j.encode p = some s → t <+: s → t ≠ s → j.decode t = none

/-! ## Plain texts -/

/-- A character in a string. -/
def escape (c : Char) : Text := if c = '"' ∨ c = '\\' then ['\\', c] else [c]

/-- A string up to its end, and what follows it; the flag is set after a backslash. -/
def unquote : Bool → Text → Option (Text × Text)
  | _, [] => none
  | true, c :: s => (unquote false s).map fun r => (c :: r.1, r.2)
  | false, c :: s =>
    if c = '"' then some ([], s)
    else if c = '\\' then unquote true s
    else (unquote false s).map fun r => (c :: r.1, r.2)

/-- The value of a field, after what is before it. -/
def field (before s : Text) : Option (Text × Text) :=
  if before <+: s then unquote false (s.drop before.length) else none

/-- The fields of a profile in their order, without white space. -/
def plainJson : ProfileJson where
  encode p := some ("\x7b\"id\":\"".toList ++ (p.id.flatMap escape ++ '"' ::
    (",\"name\":\"".toList ++ (p.name.flatMap escape ++ '"' ::
      (",\"created_at\":\"".toList ++ (p.createdAt.flatMap escape ++ '"' :: ['}']))))))
  decode s :=
    (field "\x7b\"id\":\"".toList s).bind fun r₁ =>
      (field ",\"name\":\"".toList r₁.2).bind fun r₂ =>
        (field ",\"created_at\":\"".toList r₂.2).bind fun r₃ =>
          if r₃.2 = ['}'] then some ⟨r₁.1, r₂.1, r₃.1⟩ else none

/-- What was escaped is read back. -/
theorem unquote_escape (v s : Text) :
    unquote false (v.flatMap escape ++ '"' :: s) = some (v, s) := by
  induction v with
  | nil => rfl
  | cons c v ih =>
    rw [List.flatMap_cons, List.append_assoc, escape]
    by_cases hc : c = '"' ∨ c = '\\'
    · rw [if_pos hc, List.cons_append, List.cons_append, List.nil_append, unquote, if_neg (by decide),
        if_pos rfl, unquote, ih]
      rfl
    · rw [if_neg hc, List.singleton_append, unquote, if_neg fun h => hc (.inl h),
        if_neg fun h => hc (.inr h), ih]
      rfl

theorem field_escape (before v s : Text) :
    field before (before ++ (v.flatMap escape ++ '"' :: s)) = some (v, s) := by
  rw [field, if_pos (List.prefix_append _ _), List.drop_left, unquote_escape]

/-- A string that was read up to its closing quote is read the same in a longer text. -/
theorem unquote_append {escaped : Bool} {s v r : Text} (h : unquote escaped s = some (v, r))
    (u : Text) : unquote escaped (s ++ u) = some (v, r ++ u) := by
  induction s generalizing escaped v r with
  | nil => cases escaped <;> cases h
  | cons c s ih =>
    -- A character that is kept is put before what the rest is read to.
    have hmap : ∀ {v r}, (unquote false s).map (fun r => (c :: r.1, r.2)) = some (v, r) →
        (unquote false (s ++ u)).map (fun r => (c :: r.1, r.2)) = some (v, r ++ u) := by
      intro v r h
      obtain ⟨⟨v', r'⟩, hs, heq⟩ := Option.map_eq_some_iff.1 h
      obtain ⟨rfl, rfl⟩ := Prod.mk.inj heq
      rw [ih hs, Option.map_some]
    rw [List.cons_append]
    cases escaped with
    | true =>
      rw [unquote] at h ⊢
      exact hmap h
    | false =>
      rw [unquote] at h ⊢
      split_ifs at h ⊢
      · obtain ⟨rfl, rfl⟩ := Prod.mk.inj (Option.some.inj h)
        rfl
      · exact ih h
      · exact hmap h

theorem field_append {before s v r : Text} (h : field before s = some (v, r)) (u : Text) :
    field before (s ++ u) = some (v, r ++ u) := by
  rw [field] at h ⊢
  split_ifs at h with hpre
  rw [if_pos (hpre.trans (List.prefix_append _ _)), List.drop_append_of_le_length hpre.length_le]
  exact unquote_append h u

theorem plainJson_decodes : plainJson.Decodes := fun p => by
  refine ⟨_, rfl, ?_⟩
  simp only [plainJson, field_escape, Option.bind_some, if_true]

/-- A text that is cut short decodes to nothing. -/
theorem plainJson_delimits : plainJson.Delimits := by
  rintro p s t hs ⟨u, rfl⟩ hne
  by_contra hsome
  obtain ⟨p', hp'⟩ := Option.ne_none_iff_exists'.1 hsome
  obtain ⟨s', hs', hdecode⟩ := plainJson_decodes p
  rw [hs] at hs'
  obtain rfl := Option.some.inj hs'
  -- The fields are read as before, and what is left is longer.
  simp only [plainJson, Option.bind_eq_some_iff] at hp'
  obtain ⟨⟨v₁, r₁⟩, h₁, ⟨v₂, r₂⟩, h₂, ⟨v₃, r₃⟩, h₃, hend⟩ := hp'
  simp only [plainJson, field_append h₁ u, Option.bind_some, field_append h₂ u,
    field_append h₃ u] at hdecode
  split_ifs at hend hdecode with hr₃ hr₃u
  rw [show r₃ = ['}'] from hr₃, List.singleton_append, List.cons.injEq, and_iff_right rfl] at hr₃u
  exact hne (by rw [hr₃u, List.append_nil])

example : plainJson.decode "\x7b\"id\":\"1\",\"name\":\"a\\\"b\",\"created_at\":\"2\"\x7d".toList =
    some ⟨['1'], "a\"b".toList, ['2']⟩ := by
  decide

end ProfileJson

end OpenLawsVpn
