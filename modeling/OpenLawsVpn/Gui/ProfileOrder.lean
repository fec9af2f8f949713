import Mathlib.Data.List.Pairwise
import OpenLawsVpn.Gui.ProfileRuns
import OpenLawsVpn.Lib.Numeral

/-!
# The order of the list

The list is sorted by the creation times, which are compared as texts; profiles of the
same time stay in the order in which the directory is enumerated. So the profiles of a
store are in the order of their imports, whatever the order of enumeration, exactly if
no two were imported in the same second, and the numerals of the times are ordered as
texts as the times are (`inImportOrder_iff`).

* `SameContent`: two file systems that differ in the order of enumeration only;
* `createdAt_lt_iff`: when an earlier time is the smaller text, by division;
* `inImportOrder_iff`: the criterion, for every run of the store;
* `not_inImportOrder`: seconds of two and of ten digits, in the wrong order.
-/

namespace OpenLawsVpn

open Posix

/-- The creation time of a profile as a number. -/
def Profile.created (p : Profile) : ℕ := Numeral.value p.createdAt

/-- The seconds of an import can be read back from its profile. -/
theorem created_profile (i : Imported) : i.profile.created = i.secs := Nat.ofDigitChars_ten_toDigits

namespace ProfileStore

variable (store : ProfileStore) (j : ProfileJson)

/-- The same files and directories, which may be enumerated in another order. -/
def SameContent (fs fs' : FileSystem) : Prop :=
  (∀ l, fs'.tree.find? l = fs.tree.find? l) ∧ fs'.cwd = fs.cwd

/-- However the directory is enumerated, the profiles are listed by their creation times,
    and in the same order. -/
def InImportOrder (fs : FileSystem) : Prop :=
  ∀ fs', SameContent fs fs' →
    (store.list j fs').Pairwise (fun p q => p.created ≤ q.created) ∧
      store.list j fs' = store.list j fs

/-- No two times are the same, and of two times the earlier one is at most the later one
    cut to as many digits. -/
def OrderedAsTexts (profiles : List Imported) : Prop :=
  (profiles.map Imported.secs).Nodup ∧
    ∀ i ∈ profiles, ∀ i' ∈ profiles, i.secs < i'.secs →
      i.secs ≤ i'.secs / 10 ^ (Nat.log 10 i'.secs - Nat.log 10 i.secs)

variable {store j} {fs₀ fs : FileSystem} {b : List Name} {profiles : List Imported}

/-! ## The sort -/

/-- Times are compared as texts, in the order of the bytes. -/
theorem notAfter_iff {p q : Profile} : notAfter p q = true ↔ ¬q.createdAt < p.createdAt := by
  rw [notAfter, decide_eq_true_iff]

theorem notAfter_trans (p q r : Profile) (hpq : notAfter p q = true) (hqr : notAfter q r = true) :
    notAfter p r = true := by
  rw [notAfter_iff, List.not_lt] at hpq hqr ⊢
  exact List.le_trans hpq hqr

theorem notAfter_total (p q : Profile) : (notAfter p q || notAfter q p) = true := by
  rw [Bool.or_eq_true, notAfter_iff, notAfter_iff, List.not_lt, List.not_lt]
  exact List.le_total _ _

theorem createdAt_lt_iff {i i' : Imported} (h : i.secs < i'.secs) :
    i.profile.createdAt < i'.profile.createdAt ↔
      i.secs ≤ i'.secs / 10 ^ (Nat.log 10 i'.secs - Nat.log 10 i.secs) :=
  Numeral.toDigits_lt_iff h

theorem secs_eq_of_createdAt {i i' : Imported} (h : i.profile.createdAt = i'.profile.createdAt) :
    i.secs = i'.secs := by
  rw [← created_profile, ← created_profile, Profile.created, Profile.created, h]

/-- Of two elements of a list, one is before the other one. -/
theorem pair_sublist_or {α : Type*} {l : List α} {x y : α} (hx : x ∈ l) (hy : y ∈ l) (hne : x ≠ y) :
    [x, y].Sublist l ∨ [y, x].Sublist l := by
  have hpairs : l.Pairwise fun x y => [x, y].Sublist l ∨ [y, x].Sublist l :=
    List.pairwise_iff_forall_sublist.2 .inl
  have : Std.Symm fun x y => [x, y].Sublist l ∨ [y, x].Sublist l := ⟨fun _ _ => Or.symm⟩
  exact hpairs.forall hx hy hne

/-- Without repetitions, no two elements are each before the other one. -/
theorem not_pair_sublist {α : Type*} {l : List α} (hl : l.Nodup) {x y : α}
    (hxy : [x, y].Sublist l) (hyx : [y, x].Sublist l) : False := by
  induction l with
  | nil => cases hxy
  | cons a l ih =>
    obtain ⟨ha, hl⟩ := List.nodup_cons.1 hl
    cases hxy with
    | cons _ hxy =>
      cases hyx with
      | cons _ hyx => exact ih hl hxy hyx
      | cons_cons _ hx => exact ha (hxy.subset (by simp))
    | cons_cons _ hy =>
      cases hyx with
      | cons _ hyx => exact ha (hyx.subset (by simp))
      | cons_cons _ hx => exact ha (hx.subset (by simp))

/-! ## Orders of enumeration -/

/-- What the store holds does not depend on the order in which a directory is read. -/
theorem Holds.of_sameContent (h : Holds j fs₀ fs b profiles) {fs' : FileSystem}
    (hsame : SameContent fs fs') : Holds j fs₀ fs' b profiles where
  entry n := by rw [hsame.1, h.entry]
  config i hi := by rw [hsame.1, h.config i hi]
  metadata i hi := by
    obtain ⟨mode, hmode⟩ := h.metadata i hi
    exact ⟨mode, by rw [hsame.1, hmode]⟩
  nodup := h.nodup
  frame l hl := by rw [hsame.1, h.frame l hl]
  cwd := hsame.2.trans h.cwd

theorem At.of_sameContent (h : store.At fs b) {fs' : FileSystem} (hsame : SameContent fs fs') :
    store.At fs' b :=
  h.of_frame (fun l _ => hsame.1 l) hsame.2

/-- The profiles listed are different ones. -/
theorem Holds.nodup_profile (h : Holds j fs₀ fs b profiles) :
    (profiles.map Imported.profile).Nodup := by
  have htext : Function.Injective Uuid.text := fun id id' heq => Uuid.text_injective heq
  have hids := h.nodup.map htext
  rw [List.map_map] at hids
  refine List.Nodup.of_map Profile.id ?_
  rwa [List.map_map]

/-- The list, when the directory is enumerated the other way round. -/
theorem At.list_reverse (h : store.At fs b) :
    ∃ fs', SameContent fs fs' ∧ ∃ l : List Profile,
      store.list j fs = l.mergeSort notAfter ∧ store.list j fs' = l.reverse.mergeSort notAfter := by
  have hrev := fs.tree.entries.reverse_perm
  have hsame : SameContent fs { fs with tree := fs.tree.arrange fs.tree.entries.reverse hrev } :=
    ⟨fs.tree.find?_arrange hrev, rfl⟩
  refine ⟨_, hsame, _, h.list_eq, ?_⟩
  rw [(h.of_sameContent hsame).list_eq, ← List.filterMap_reverse, ← FileTree.children_reverse]
  simp only [hsame.1]

/-- The profiles listed, in any order of enumeration, are those that the store holds,
    sorted by the texts of their times. -/
theorem Holds.list_of_sameContent (hj : j.Decodes) (hat : store.At fs b)
    (h : Holds j fs₀ fs b profiles) {fs' : FileSystem} (hsame : SameContent fs fs') :
    (store.list j fs').Perm (profiles.map Imported.profile) ∧
      (store.list j fs').Pairwise fun p q => notAfter p q = true := by
  have hat' := hat.of_sameContent hsame
  refine ⟨(h.of_sameContent hsame).list_perm hj hat', ?_⟩
  rw [hat'.list_eq]
  exact List.pairwise_mergeSort notAfter_trans notAfter_total _

/-- Profiles of the same time are listed in another order when they are enumerated the
    other way round. -/
theorem Holds.nodup_secs (hj : j.Decodes) (hat : store.At fs b) (h : Holds j fs₀ fs b profiles)
    (horder : ∀ fs', SameContent fs fs' → store.list j fs' = store.list j fs) :
    (profiles.map Imported.secs).Nodup := by
  obtain ⟨hperm, -⟩ := h.list_of_sameContent hj hat ⟨fun _ => rfl, rfl⟩
  have hnodup : (store.list j fs).Nodup := hperm.nodup_iff.2 h.nodup_profile
  obtain ⟨fs', hsame, l, hl, hl'⟩ := hat.list_reverse (j := j)
  rw [horder fs' hsame] at hl'
  have hpair : ∀ {p q : Profile}, p.createdAt = q.createdAt → ¬[p, q].Sublist l := by
    intro p q heq hpq
    have hle : notAfter p q = true ∧ notAfter q p = true := by
      rw [notAfter_iff, notAfter_iff, heq]
      exact ⟨List.lt_irrefl _, List.lt_irrefl _⟩
    have hpq' := List.pair_sublist_mergeSort notAfter_trans notAfter_total hle.1 hpq
    have hqp := List.pair_sublist_mergeSort notAfter_trans notAfter_total hle.2 hpq.reverse
    rw [← hl] at hpq'
    rw [← hl'] at hqp
    exact not_pair_sublist hnodup hpq' hqp
  rw [List.nodup_map_iff_inj_on h.nodup.of_map]
  intro i hi i' hi' hsecs
  by_contra hne
  have hmem : ∀ i ∈ profiles, i.profile ∈ l := fun i hi => by
    rw [← (List.mergeSort_perm l notAfter).mem_iff, ← hl, hperm.mem_iff]
    exact List.mem_map_of_mem hi
  have hprofile : i.profile ≠ i'.profile := fun heq =>
    hne (List.inj_on_of_nodup_map h.nodup_profile hi hi' heq)
  have htimes : i.profile.createdAt = i'.profile.createdAt := congrArg chronoNow hsecs
  rcases pair_sublist_or (hmem i hi) (hmem i' hi') hprofile with hii' | hi'i
  · exact hpair htimes hii'
  · exact hpair htimes.symm hi'i

/-- The profiles that the store holds are in the order of their imports exactly if their
    times are ordered as texts. -/
theorem Holds.orderedAsTexts_iff (hj : j.Decodes) (hat : store.At fs b)
    (h : Holds j fs₀ fs b profiles) : store.InImportOrder j fs ↔ OrderedAsTexts profiles := by
  constructor
  · intro horder
    refine ⟨h.nodup_secs hj hat fun fs' hsame => (horder fs' hsame).2, fun i hi i' hi' hlt => ?_⟩
    have hsame : SameContent fs fs := ⟨fun _ => rfl, rfl⟩
    obtain ⟨hperm, hsorted⟩ := h.list_of_sameContent hj hat hsame
    have hmem : ∀ i ∈ profiles, i.profile ∈ store.list j fs := fun i hi =>
      hperm.mem_iff.2 (List.mem_map_of_mem hi)
    -- One of the two is listed first, and then its time is not after the other one.
    have hfirst := pair_sublist_or (hmem i hi) (hmem i' hi') fun heq => by
      rw [← created_profile i, heq, created_profile] at hlt
      exact lt_irrefl _ hlt
    rw [← createdAt_lt_iff hlt]
    rcases hfirst with hii' | hi'i
    · have hle := notAfter_iff.1 (List.pairwise_iff_forall_sublist.1 hsorted hii')
      by_contra hnot
      have heq := List.le_antisymm (List.not_lt.1 hle) (List.not_lt.1 hnot)
      exact hlt.ne (secs_eq_of_createdAt heq)
    · have hle := List.pairwise_iff_forall_sublist.1 (horder fs hsame).1 hi'i
      rw [created_profile, created_profile] at hle
      exact absurd hlt (not_lt.2 hle)
  · rintro ⟨hnodup, htexts⟩ fs' hsame
    obtain ⟨hperm', hsorted'⟩ := h.list_of_sameContent hj hat hsame
    obtain ⟨hperm, hsorted⟩ := h.list_of_sameContent hj hat ⟨fun _ => rfl, rfl⟩
    have hle : ∀ {i i' : Imported}, i ∈ profiles → i' ∈ profiles →
        notAfter i.profile i'.profile = true → i.secs ≤ i'.secs := by
      intro i i' hi hi' hnotAfter
      by_contra hlt
      rw [not_le] at hlt
      exact notAfter_iff.1 hnotAfter ((createdAt_lt_iff hlt).2 (htexts i' hi' i hi hlt))
    constructor
    · refine hsorted'.imp_of_mem fun {p q} hp hq hpq => ?_
      obtain ⟨i, hi, rfl⟩ := List.mem_map.1 (hperm'.mem_iff.1 hp)
      obtain ⟨i', hi', rfl⟩ := List.mem_map.1 (hperm'.mem_iff.1 hq)
      rw [created_profile, created_profile]
      exact hle hi hi' hpq
    · refine List.Perm.eq_of_pairwise (fun p q hp hq hpq hqp => ?_) hsorted' hsorted
        (hperm'.trans hperm.symm)
      obtain ⟨i, hi, rfl⟩ := List.mem_map.1 (hperm'.mem_iff.1 hp)
      obtain ⟨i', hi', rfl⟩ := List.mem_map.1 (hperm.mem_iff.1 hq)
      exact congrArg Imported.profile (List.inj_on_of_nodup_map hnodup hi hi'
        (le_antisymm (hle hi hi' hpq) (hle hi' hi hqp)))

/-- After any imports and deletions, the profiles are in the order of their imports
    exactly if their times are ordered as texts. -/
theorem inImportOrder_iff (hj : j.Decodes) (hempty : store.Empty fs₀ b) {ops : List StoreOp}
    (hops : WellBehaved [] ops) :
    store.InImportOrder j (store.run j fs₀ ops) ↔ OrderedAsTexts (live ops) := by
  have h : Holds j fs₀ (store.run j fs₀ ops) b (live ops) :=
    (holds_init hempty).run hempty (fun _ hi => absurd hi List.not_mem_nil) hops
  exact h.orderedAsTexts_iff hj (hempty.1.of_frame h.frame h.cwd)

/-- Two profiles imported one after the other. -/
theorem inImportOrder_two :
    profilesStore.InImportOrder .plainJson
      (profilesStore.run .plainJson freshSystem [.importProfile work, .importProfile home]) := by
  have hempty : profilesStore.Empty freshSystem [profilesName] :=
    ⟨⟨by decide, by decide⟩, by decide⟩
  have hops : WellBehaved [] [.importProfile work, .importProfile home] :=
    ⟨List.not_mem_nil, by decide, trivial⟩
  exact (inImportOrder_iff ProfileJson.plainJson_decodes hempty hops).2 ⟨by decide, by decide⟩

/-- A profile imported before the clock was set. -/
def early : Imported := { home with secs := 95 }

/-- It is listed after one that was imported when the clock was set. -/
theorem not_inImportOrder :
    ¬profilesStore.InImportOrder .plainJson
      (profilesStore.run .plainJson freshSystem [.importProfile early, .importProfile work]) := by
  have hempty : profilesStore.Empty freshSystem [profilesName] :=
    ⟨⟨by decide, by decide⟩, by decide⟩
  have h : Holds .plainJson freshSystem
      (profilesStore.run .plainJson freshSystem [.importProfile early, .importProfile work])
      [profilesName] [early, work] :=
    ((holds_init hempty).importProfile hempty List.not_mem_nil).importProfile hempty (by decide)
  rw [h.orderedAsTexts_iff ProfileJson.plainJson_decodes (hempty.1.of_frame h.frame h.cwd)]
  exact fun hordered => absurd (hordered.2 early (by decide) work (by decide)) (by decide)

end ProfileStore

end OpenLawsVpn
