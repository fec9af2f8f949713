import Mathlib.Data.List.Infix
import Mathlib.Data.List.Nodup

/-!
# Trees of files

A tree of directories and files is a finite map from locations, the names on the
way from the root, to what is there, such that every entry is in a directory
(`FileTree`). The root is a directory, and no entry.

Every operation is known by what is found after it (`find?_insert`,
`find?_replace`, `find?_erase`, `find?_hollow`), and every location found in a
directory is one of its children, which are in some order (`mem_children`).

* `FileTree`: the entries with the proofs that no location has two and that none is without its
  directory, so that every operation has to give such a tree again;
* `find?_insert`, `find?_replace`, `find?_erase`, `find?_hollow`: the operations;
* `Trims`: a tree is what is left of another one, an order that removals follow (`Trims.trans`);
* `find?_arrange`, `children_reverse`: the order of the entries matters for listing only.
-/

/-- What is at a location. -/
inductive FileTree.Node (κ : Type*)
  | dir
  | file (content : κ)
  deriving DecidableEq, Repr

/-- A file has its content changed; a directory has none. -/
def FileTree.Node.map {κ : Type*} (f : κ → κ) : FileTree.Node κ → FileTree.Node κ
  | .dir => .dir
  | .file content => .file (f content)

/-- A tree of files with names in `ν` and contents in `κ`. -/
structure FileTree (ν κ : Type*) where
  entries : List (List ν × FileTree.Node κ)
  nodup : (entries.map Prod.fst).Nodup
  parent : ∀ e ∈ entries, e.1 ≠ [] ∧ (e.1.dropLast = [] ∨ (e.1.dropLast, .dir) ∈ entries)

namespace FileTree

variable {ν κ : Type*} [DecidableEq ν] (t : FileTree ν κ)

/-- What is found at a location. -/
def find? (l : List ν) : Option (Node κ) :=
  if l = [] then some .dir else (t.entries.find? fun e => decide (e.1 = l)).map Prod.snd

/-- The location is that of a directory. -/
def IsDir (l : List ν) : Prop := t.find? l = some .dir

instance (l : List ν) : Decidable (t.IsDir l) :=
  match h : t.find? l with
  | none => isFalse (by rw [IsDir, h]; simp)
  | some .dir => isTrue h
  | some (.file _) => isFalse (by rw [IsDir, h]; simp)

/-- The names in a directory. -/
def children (l : List ν) : List ν :=
  t.entries.filterMap fun e => if e.1.dropLast = l then e.1.getLast? else none

/-! ## What is found -/

theorem find?_nil : t.find? [] = some .dir := if_pos rfl

variable {t} in
theorem IsDir.ne_none {l : List ν} (h : t.IsDir l) : t.find? l ≠ none :=
  Option.ne_none_iff_exists'.2 ⟨_, h⟩

/-- What is found is an entry, except for the root. -/
theorem find?_eq_some_iff {l : List ν} (hl : l ≠ []) {n : Node κ} :
    t.find? l = some n ↔ (l, n) ∈ t.entries := by
  rw [find?, if_neg hl, Option.map_eq_some_iff]
  constructor
  · rintro ⟨e, he, rfl⟩
    obtain rfl : e.1 = l := by simpa using List.find?_some he
    exact List.mem_of_find?_eq_some he
  · intro hmem
    cases hfind : t.entries.find? fun e => decide (e.1 = l) with
    | none => simpa using List.find?_eq_none.1 hfind _ hmem
    | some e =>
      have hkey : e.1 = l := by simpa using List.find?_some hfind
      have heq := List.inj_on_of_nodup_map t.nodup (List.mem_of_find?_eq_some hfind) hmem hkey
      exact ⟨e, rfl, congrArg Prod.snd heq⟩

/-- Nothing is found where there is no entry. -/
theorem find?_eq_none_iff {l : List ν} :
    t.find? l = none ↔ l ≠ [] ∧ l ∉ t.entries.map Prod.fst := by
  by_cases hl : l = []
  · simp [hl, find?_nil]
  · rw [find?, if_neg hl, Option.map_eq_none_iff, List.find?_eq_none]
    simp only [decide_eq_true_eq, ne_eq, hl, not_false_eq_true, true_and, List.mem_map, not_exists,
      not_and]

theorem ne_nil_of_find?_eq_none {l : List ν} (h : t.find? l = none) : l ≠ [] :=
  (t.find?_eq_none_iff.1 h).1

/-- What is in a location is in a directory. -/
theorem isDir_of_find?_concat {l : List ν} {n : ν} (h : t.find? (l ++ [n]) ≠ none) : t.IsDir l := by
  obtain ⟨node, hnode⟩ := Option.ne_none_iff_exists'.1 h
  have hne : l ++ [n] ≠ [] := List.concat_ne_nil _ _
  have hparent := (t.parent _ ((t.find?_eq_some_iff hne).1 hnode)).2
  rw [List.dropLast_concat] at hparent
  rcases hparent with rfl | hmem
  · exact t.find?_nil
  · by_cases hl : l = []
    · rw [hl]
      exact t.find?_nil
    · exact (t.find?_eq_some_iff hl).2 hmem

/-- Whatever is on the way to something is a directory. -/
theorem isDir_of_find?_append {l r : List ν} (hr : r ≠ []) (h : t.find? (l ++ r) ≠ none) :
    t.IsDir l := by
  induction r using List.reverseRecOn with
  | nil => exact absurd rfl hr
  | append_singleton r n ih =>
    rw [← List.append_assoc] at h
    have hdir := t.isDir_of_find?_concat h
    by_cases hr' : r = []
    · rwa [hr', List.append_nil] at hdir
    · exact ih hr' hdir.ne_none

/-- Nothing is below what is not there. -/
theorem find?_eq_none_of_prefix {l k : List ν} (h : t.find? l = none) (hk : l <+: k) :
    t.find? k = none := by
  obtain ⟨r, rfl⟩ := hk
  by_contra hfound
  by_cases hr : r = []
  · rw [hr, List.append_nil] at hfound
    exact hfound h
  · exact (t.isDir_of_find?_append hr hfound).ne_none h

/-- The children of a path are the names that something is found at. -/
theorem mem_children {l : List ν} {n : ν} : n ∈ t.children l ↔ t.find? (l ++ [n]) ≠ none := by
  have hkey : ∀ k : List ν, (if k.dropLast = l then k.getLast? else none) = some n ↔ k = l ++ [n] := by
    intro k
    constructor
    · intro h
      split_ifs at h with hl
      rw [← hl, List.dropLast_append_getLast? n h]
    · rintro rfl
      rw [List.dropLast_concat, if_pos rfl, List.getLast?_concat]
  rw [children, List.mem_filterMap, ne_eq, find?_eq_none_iff, and_iff_right (List.concat_ne_nil _ _),
    not_not, List.mem_map]
  exact exists_congr fun e => and_congr_right fun _ => hkey e.1

/-- They are listed once each. -/
theorem nodup_children (l : List ν) : (t.children l).Nodup := by
  have hkeys : t.children l = (t.entries.map Prod.fst).filterMap fun k =>
      if k.dropLast = l then k.getLast? else none := by
    rw [List.filterMap_map]
    rfl
  rw [hkeys]
  refine t.nodup.filterMap fun k k' n h h' => ?_
  rw [Option.mem_def] at h h'
  split_ifs at h h' with hl hl'
  rw [← List.dropLast_append_getLast? n h, ← List.dropLast_append_getLast? n h', hl, hl']

/-! ## Another order -/

/-- The same tree with its entries, and thus the names in a directory, in another order. -/
def arrange (entries : List (List ν × Node κ)) (h : entries.Perm t.entries) : FileTree ν κ where
  entries := entries
  nodup := (h.map Prod.fst).nodup_iff.2 t.nodup
  parent e he := (t.parent e (h.mem_iff.1 he)).imp_right (Or.imp_right h.mem_iff.2)

/-- The order of the entries makes no difference to what is found. -/
theorem find?_arrange {entries : List (List ν × Node κ)} (h : entries.Perm t.entries)
    (l : List ν) : (t.arrange entries h).find? l = t.find? l := by
  by_cases hl : l = []
  · rw [hl, find?_nil, find?_nil]
  · refine Option.ext fun n => ?_
    rw [find?_eq_some_iff _ hl, find?_eq_some_iff _ hl]
    exact h.mem_iff

/-- The other way round, the children are listed the other way round. -/
theorem children_reverse (l : List ν) :
    (t.arrange t.entries.reverse t.entries.reverse_perm).children l = (t.children l).reverse :=
  List.filterMap_reverse

/-! ## Adding and replacing -/

/-- A node at a location where there is nothing yet, in a directory. -/
def insert? (l : List ν) (n : Node κ) : Option (FileTree ν κ) :=
  if h : t.find? l = none ∧ t.IsDir l.dropLast then
    some
      { entries := t.entries ++ [(l, n)]
        nodup := by
          rw [List.map_append, List.map_singleton, List.nodup_append]
          refine ⟨t.nodup, List.nodup_singleton _, ?_⟩
          rintro k hk k' hk' rfl
          rw [List.mem_singleton.1 hk'] at hk
          exact (t.find?_eq_none_iff.1 h.1).2 hk
        parent := by
          intro e he
          rcases List.mem_append.1 he with he | he
          · obtain ⟨hne, hparent⟩ := t.parent e he
            exact ⟨hne, hparent.imp_right fun hmem => List.mem_append_left _ hmem⟩
          · rw [List.mem_singleton.1 he]
            refine ⟨t.ne_nil_of_find?_eq_none h.1, or_iff_not_imp_left.2 fun hroot => ?_⟩
            exact List.mem_append_left _ ((t.find?_eq_some_iff hroot).1 h.2) }
  else none

/-- A node is inserted where there is none, in a directory. -/
theorem insert?_isSome_iff {l : List ν} {n : Node κ} :
    (t.insert? l n).isSome = true ↔ t.find? l = none ∧ t.IsDir l.dropLast := by
  rw [insert?]
  split_ifs with h <;> simp [h]

variable {t} in
/-- After it, the node is found there, and the rest as before. -/
theorem find?_insert {t' : FileTree ν κ} {l : List ν} {n : Node κ} (h : t.insert? l n = some t')
    (k : List ν) : t'.find? k = if k = l then some n else t.find? k := by
  rw [insert?] at h
  split_ifs at h with hfree
  obtain rfl := Option.some.inj h
  by_cases hk : k = []
  · subst hk
    rw [if_neg (t.ne_nil_of_find?_eq_none hfree.1).symm, find?_nil, find?_nil]
  rw [find?, if_neg hk, List.find?_append, List.find?_singleton]
  by_cases hkl : k = l
  · subst hkl
    rw [if_pos rfl]
    have hnone := hfree.1
    rw [find?, if_neg hk, Option.map_eq_none_iff] at hnone
    simp [hnone]
  · rw [if_neg hkl, find?, if_neg hk]
    simp [Ne.symm hkl]

/-- The content of a file, replaced. -/
def replace (l : List ν) (f : κ → κ) : FileTree ν κ where
  entries := t.entries.map fun e => (e.1, if e.1 = l then e.2.map f else e.2)
  nodup := by
    rw [List.map_map]
    exact t.nodup
  parent := by
    intro e he
    obtain ⟨e₀, he₀, rfl⟩ := List.mem_map.1 he
    obtain ⟨hne, hparent⟩ := t.parent e₀ he₀
    refine ⟨hne, hparent.imp_right fun hmem => List.mem_map.2 ⟨_, hmem, ?_⟩⟩
    split_ifs <;> rfl

/-- The content of a file is replaced, and the rest is as before. -/
theorem find?_replace (l : List ν) (f : κ → κ) (k : List ν) :
    (t.replace l f).find? k = if k = l then (t.find? k).map (Node.map f) else t.find? k := by
  by_cases hk : k = []
  · rw [hk, find?_nil, find?_nil]
    split_ifs <;> rfl
  have hfind : (t.replace l f).entries.find? (fun e => decide (e.1 = k)) =
      (t.entries.find? fun e => decide (e.1 = k)).map fun e =>
        (e.1, if e.1 = l then e.2.map f else e.2) := List.find?_map ..
  rw [find?, find?, if_neg hk, if_neg hk, hfind]
  cases hentry : t.entries.find? fun e => decide (e.1 = k) with
  | none => simp
  | some e =>
    obtain rfl : e.1 = k := by simpa using List.find?_some hentry
    split_ifs with hel <;> simp [hel]

/-! ## Removing -/

/-- The entries at some locations, with every entry on the way to them. -/
def restrict (keep : List ν → Bool) (h : ∀ l n, keep (l ++ [n]) → l = [] ∨ keep l) : FileTree ν κ where
  entries := t.entries.filter fun e => keep e.1
  nodup := t.nodup.sublist (List.filter_sublist.map _)
  parent := by
    intro e he
    obtain ⟨he, hkeep⟩ := List.mem_filter.1 he
    obtain ⟨hne, hparent⟩ := t.parent e he
    refine ⟨hne, or_iff_not_imp_left.2 fun hroot => List.mem_filter.2 ⟨hparent.resolve_left hroot, ?_⟩⟩
    rw [← List.dropLast_append_getLast hne] at hkeep
    exact (h _ _ hkeep).resolve_left hroot

/-- What is kept is found. -/
theorem find?_restrict {keep : List ν → Bool} {h : ∀ l n, keep (l ++ [n]) → l = [] ∨ keep l}
    {k : List ν} (hk : k ≠ []) :
    (t.restrict keep h).find? k = if keep k then t.find? k else none := by
  rw [find?, if_neg hk, find?, if_neg hk, restrict, List.find?_filter]
  split_ifs with hkeep
  · congr 2
    funext e
    by_cases he : e.1 = k <;> simp [he, hkeep]
  · rw [Option.map_eq_none_iff, List.find?_eq_none]
    intro e _
    by_cases he : e.1 = k <;> simp [he, hkeep]

/-- All that is at the location, or below it. -/
def erase (l : List ν) : FileTree ν κ :=
  t.restrict (fun k => !decide (l <+: k)) fun k n h => .inr (by
    simp only [Bool.not_eq_true', decide_eq_false_iff_not] at h ⊢
    exact fun hk => h (hk.trans (List.prefix_append _ _)))

/-- All that is below the location. -/
def hollow (l : List ν) : FileTree ν κ :=
  t.restrict (fun k => !(decide (l <+: k) && decide (l ≠ k))) fun k n h => .inr (by
    simp only [Bool.not_eq_true', Bool.and_eq_false_iff, decide_eq_false_iff_not, not_not] at h ⊢
    rcases h with h | rfl
    · exact .inl fun hk => h (hk.trans (List.prefix_append _ _))
    · exact .inl fun hk => absurd hk.length_le (by simp))

/-- A path is erased with all that is under it. -/
theorem find?_erase {l : List ν} (hl : l ≠ []) (k : List ν) :
    (t.erase l).find? k = if l <+: k then none else t.find? k := by
  by_cases hk : k = []
  · subst hk
    rw [find?_nil, find?_nil, if_neg fun hpre => hl (List.prefix_nil.1 hpre)]
  · rw [erase, find?_restrict _ hk]
    split_ifs <;> simp_all

/-- What is under a path is erased, but not the path. -/
theorem find?_hollow (l k : List ν) :
    (t.hollow l).find? k = if l <+: k ∧ l ≠ k then none else t.find? k := by
  by_cases hk : k = []
  · subst hk
    rw [find?_nil, find?_nil, if_neg]
    rintro ⟨hpre, hne⟩
    exact hne (List.prefix_nil.1 hpre)
  · rw [hollow, find?_restrict _ hk]
    split_ifs <;> simp_all

/-- What is left of a tree: the names in a directory that still are there, in their order. -/
def Trims (t' : FileTree ν κ) : Prop :=
  ∀ l, t'.children l = (t.children l).filter fun n => (t'.find? (l ++ [n])).isSome

theorem trims_refl : t.Trims t := fun l => by
  refine (List.filter_eq_self.2 fun n hn => ?_).symm
  exact Option.isSome_iff_ne_none.2 (t.mem_children.1 hn)

/-- To keep only a part is to trim. -/
theorem trims_restrict (keep : List ν → Bool) (h : ∀ l n, keep (l ++ [n]) → l = [] ∨ keep l) :
    t.Trims (t.restrict keep h) := by
  intro l
  rw [children, children, restrict, List.filter_filterMap, List.filterMap_filter]
  refine List.filterMap_congr fun e he => ?_
  obtain ⟨hne, -⟩ := t.parent e he
  by_cases hl : e.1.dropLast = l
  · rw [if_pos hl]
    obtain ⟨n, hn⟩ := Option.isSome_iff_exists.1 (List.getLast?_isSome.2 hne)
    have hkey : e.1 = l ++ [n] := by rw [← hl, List.dropLast_append_getLast? n hn]
    have hfound : t.find? (l ++ [n]) = some e.2 :=
      (t.find?_eq_some_iff (List.concat_ne_nil _ _)).2 (hkey ▸ he)
    have hfind := t.find?_restrict (h := h) (List.concat_ne_nil n l)
    rw [restrict] at hfind
    rw [hn, Option.filter_some, hfind, hfound, ← hkey]
    cases keep e.1 <;> rfl
  · rw [if_neg hl]
    exact ite_self none

variable {t} in
/-- To trim twice is to trim. -/
theorem Trims.trans {t' t'' : FileTree ν κ} (h : t.Trims t') (h' : t'.Trims t'') : t.Trims t'' := by
  intro l
  rw [h' l, h l, List.filter_filter]
  refine List.filter_congr fun n _ => ?_
  rw [Bool.and_eq_left_iff_imp]
  intro hfound
  have hmem : n ∈ t''.children l := t''.mem_children.2 (Option.isSome_iff_ne_none.1 hfound)
  rw [h' l] at hmem
  exact Option.isSome_iff_ne_none.2 (t'.mem_children.1 (List.mem_of_mem_filter hmem))

/-- All that is below a location is at or below one entry of it exactly if it has no
    other entry. -/
theorem children_eq_singleton_iff {l : List ν} {n : ν} (hn : t.find? (l ++ [n]) ≠ none) :
    t.children l = [n] ↔
      ∀ k, (t.hollow l).find? k = if l ++ [n] <+: k then none else t.find? k := by
  constructor
  · intro hchildren k
    rw [find?_hollow]
    by_cases hk : l ++ [n] <+: k
    · have hne : l ≠ k := fun heq => absurd (heq ▸ hk).length_le (by simp)
      rw [if_pos hk, if_pos ⟨(List.prefix_append _ _).trans hk, hne⟩]
    · rw [if_neg hk, ite_eq_right_iff]
      rintro ⟨⟨r, rfl⟩, hne⟩
      cases r with
      | nil => exact absurd (List.append_nil l).symm hne
      | cons m r =>
        -- The way there is through another entry.
        have hpre : ∀ m', l ++ [m'] <+: l ++ m :: r ↔ m' = m := fun m' => by
          rw [List.prefix_append_right_inj, List.cons_prefix_cons]
          exact and_iff_left List.nil_prefix
        refine (t.find?_eq_none_of_prefix ?_ ((hpre m).2 rfl)).symm
        rw [← not_ne_iff, ← mem_children, hchildren, List.mem_singleton]
        exact fun hm => hk ((hpre n).2 hm.symm)
  · intro hall
    rw [← List.perm_singleton,
      List.perm_ext_iff_of_nodup (t.nodup_children l) (List.nodup_singleton n)]
    intro m
    rw [mem_children, List.mem_singleton]
    refine ⟨fun hm => ?_, fun hm => hm ▸ hn⟩
    have hchild := hall (l ++ [m])
    rw [find?_hollow, if_pos ⟨List.prefix_append _ _, by simp⟩] at hchild
    split_ifs at hchild with hpre
    · rw [List.prefix_append_right_inj, List.cons_prefix_cons] at hpre
      exact hpre.1.symm
    · exact absurd hchild.symm hm

end FileTree
