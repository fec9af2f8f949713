import OpenLawsVpn.Gui.ProfileStore

/-!
# Runs of the profile store

From an empty base directory on, the store is what it is told: after any imports and
deletions, the profiles listed are those imported and not deleted since, each with
its files (`store_run`).

Every operation keeps what the store looks like (`Holds`): the base directory has one
entry for each profile that is live, with the two files of its import, and all that
was there at the start is as it was.

* `ProfileStore.perform`: one operation, and `ProfileStore.live`: the profiles that should be there;
* `WellBehaved`: UUIDs are new, and only profiles that were imported are deleted;
* `Holds.run`: the run lemma, from one for each operation;
* `Holds.list_perm`, `Holds.read_configPath`: what is listed and read of a store that holds them.
-/

namespace OpenLawsVpn

open Posix

/-- A profile imported: the UUID generated, the reading of the clock, and what is
    imported. -/
structure Imported where
  id : Uuid
  secs : ℕ
  name : Text
  content : Text
  deriving DecidableEq

/-- The profile that the import returns. -/
def Imported.profile (i : Imported) : Profile := ⟨i.id.text, i.name, chronoNow i.secs⟩

/-- A call on the store. -/
inductive StoreOp
  | importProfile (i : Imported)
  | delete (id : Uuid)

namespace ProfileStore

variable (store : ProfileStore) (j : ProfileJson)

/-- The file system after a call. -/
def perform (fs : FileSystem) : StoreOp → FileSystem
  | .importProfile i => (store.importProfile j {} i.id i.secs i.name i.content fs).1
  | .delete id => store.delete id.text fs

/-- The file system after the calls, one after the other. -/
def run (fs : FileSystem) (ops : List StoreOp) : FileSystem := ops.foldl (store.perform j) fs

/-- The profiles after another operation. -/
def stepLive (profiles : List Imported) : StoreOp → List Imported
  | .importProfile i => profiles ++ [i]
  | .delete id => profiles.filter fun i => decide (i.id ≠ id)

/-- The profiles imported and not deleted since. -/
def live (ops : List StoreOp) : List Imported := ops.foldl stepLive []

/-- The UUIDs generated are new, and only profiles imported before are deleted; the
    first list has the ids that were generated so far. -/
def WellBehaved : List Uuid → List StoreOp → Prop
  | _, [] => True
  | ids, .importProfile i :: ops => i.id ∉ ids ∧ WellBehaved (i.id :: ids) ops
  | ids, .delete id :: ops => id ∈ ids ∧ WellBehaved ids ops

/-- The base directory is there, and empty. -/
def Empty (fs : FileSystem) (b : List Name) : Prop := store.At fs b ∧ fs.tree.children b = []

/-- The store holds the profiles. -/
structure Holds (fs₀ fs : FileSystem) (b : List Name) (profiles : List Imported) : Prop where
  entry : ∀ n, fs.tree.find? (b ++ [n]) ≠ none ↔ ∃ i ∈ profiles, i.id.name = n
  config : ∀ i ∈ profiles, fs.tree.find? (b ++ [i.id.name, configName]) =
    some (.file ⟨Utf8.encode i.content, 0o600⟩)
  metadata : ∀ i ∈ profiles, ∃ mode, fs.tree.find? (b ++ [i.id.name, metaName]) =
    some (.file ⟨Utf8.encode ((j.encode i.profile).getD []), mode⟩)
  nodup : (profiles.map Imported.id).Nodup
  frame : ∀ l, fs₀.tree.find? l ≠ none → fs.tree.find? l = fs₀.tree.find? l
  cwd : fs.cwd = fs₀.cwd

variable {store j} {fs₀ fs : FileSystem} {b : List Name} {profiles : List Imported}

/-- At the start, nothing is below the base directory. -/
theorem Empty.find?_eq_none (h : store.Empty fs₀ b) {n : Name} {k : List Name}
    (hk : b ++ [n] <+: k) : fs₀.tree.find? k = none := by
  have hnone : fs₀.tree.find? (b ++ [n]) = none := by
    by_contra hfind
    have hmem := fs₀.tree.mem_children.2 hfind
    rw [h.2] at hmem
    cases hmem
  exact fs₀.tree.find?_eq_none_of_prefix hnone hk

/-- An empty store holds no profile. -/
theorem holds_init (h : store.Empty fs₀ b) : Holds j fs₀ fs₀ b [] where
  entry n := by
    rw [h.find?_eq_none List.prefix_rfl]
    simp
  config i hi := absurd hi List.not_mem_nil
  metadata i hi := absurd hi List.not_mem_nil
  nodup := List.nodup_nil
  frame _ _ := rfl
  cwd := rfl

/-- A profile that is held has its directory. -/
theorem Holds.isDir (h : Holds j fs₀ fs b profiles) {i : Imported} (hi : i ∈ profiles) :
    fs.tree.IsDir (b ++ [i.id.name]) := by
  refine fs.tree.isDir_of_find?_concat (n := configName) ?_
  rw [List.append_assoc, List.singleton_append, h.config i hi]
  simp

/-- Two names are below a third one only if that is the first of them. -/
theorem prefix_pair_iff {n n' m : Name} : b ++ [n] <+: b ++ [n', m] ↔ n = n' := by
  rw [List.prefix_append_right_inj, List.cons_prefix_cons, and_iff_left List.nil_prefix]

/-- A directory is inside another of the same depth only if they are the same. -/
theorem prefix_single_iff {n n' : Name} : b ++ [n] <+: b ++ [n'] ↔ n = n' := by
  rw [List.prefix_append_right_inj, List.cons_prefix_cons, and_iff_left List.nil_prefix]

/-! ## Importing -/

/-- What is found after an import that does not fail. -/
theorem At.find?_importProfile (h : store.At fs b) {i : Imported}
    (hfree : fs.tree.find? (b ++ [i.id.name]) = none) :
    let fs' := store.perform j fs (.importProfile i)
    fs'.cwd = fs.cwd ∧ ∀ k, fs'.tree.find? k =
      if k = b ++ [i.id.name, configName] then some (.file ⟨Utf8.encode i.content, 0o600⟩)
      else if k = b ++ [i.id.name, metaName] then
        some (.file ⟨Utf8.encode ((j.encode i.profile).getD []), fs.newMode⟩)
      else if k = b ++ [i.id.name] then some .dir
      else fs.tree.find? k := by
  obtain ⟨t, ht, hcreate⟩ := h.createDirAll hfree
  have hfind := FileTree.find?_insert ht
  have hat : store.At { fs with tree := t } b := by
    refine h.of_frame (fun l hl => (hfind l).trans (if_neg ?_)) rfl
    rintro rfl
    exact hl hfree
  have hdir : t.IsDir (b ++ [i.id.name]) := by rw [FileTree.IsDir, hfind, if_pos rfl]
  have hempty : ∀ n, t.find? (b ++ [i.id.name] ++ [n]) = none := by
    intro n
    rw [hfind, if_neg (by simp)]
    by_contra hsome
    exact (fs.tree.isDir_of_find?_concat hsome).ne_none hfree
  have hfill := find?_fill (j := j) (FileSystem.resolve_join_name _ hat.1 hat.2 i.id.name) hdir hempty
    {} ⟨i.id.text, i.name, chronoNow i.secs⟩ i.content
  intro fs'
  have hfs' : fs' = fill j {} (join store.baseDir i.id.name.bytes)
      ⟨i.id.text, i.name, chronoNow i.secs⟩ i.content { fs with tree := t } := by
    rw [show fs' = _ from congrArg Prod.fst (importProfile_eq {} i.id i.secs i.name i.content), hcreate]
  refine ⟨by rw [hfs', cwd_fill], fun k => ?_⟩
  rw [hfs', hfill, hfind, List.append_assoc, List.append_assoc]
  rfl

/-- A directory and a file in one are at different places. -/
theorem single_ne_pair {n n' m : Name} : b ++ [n] ≠ b ++ [n', m] := fun heq => by
  simpa using congrArg List.length heq

/-- A new id names no entry of the base directory. -/
theorem Holds.find?_eq_none (h : Holds j fs₀ fs b profiles) {i : Imported}
    (hname : ∀ i' ∈ profiles, i'.id.name ≠ i.id.name) :
    fs.tree.find? (b ++ [i.id.name]) = none := by
  by_contra hfind
  obtain ⟨i', hi', heq⟩ := (h.entry _).1 hfind
  exact hname i' hi' heq

/-- An import of a new profile adds it. -/
theorem Holds.importProfile (hempty : store.Empty fs₀ b) (h : Holds j fs₀ fs b profiles)
    {i : Imported} (hnew : i.id ∉ profiles.map Imported.id) :
    Holds j fs₀ (store.perform j fs (.importProfile i)) b (profiles ++ [i]) := by
  have hname : ∀ i' ∈ profiles, i'.id.name ≠ i.id.name := fun i' hi' heq =>
    hnew (Uuid.name_injective heq ▸ List.mem_map_of_mem hi')
  obtain ⟨hcwd, hfind⟩ :=
    (hempty.1.of_frame h.frame h.cwd).find?_importProfile (j := j) (h.find?_eq_none hname)
  have hpair : ∀ n m m' : Name, n ≠ i.id.name → b ++ [n, m] ≠ b ++ [i.id.name, m'] := by
    intro n m m' hn heq
    exact hn (List.cons.inj (List.append_cancel_left heq)).1
  have hkept : ∀ i' ∈ profiles, ∀ m,
      (store.perform j fs (.importProfile i)).tree.find? (b ++ [i'.id.name, m]) =
        fs.tree.find? (b ++ [i'.id.name, m]) := by
    intro i' hi' m
    rw [hfind, if_neg (hpair _ _ _ (hname i' hi')), if_neg (hpair _ _ _ (hname i' hi')),
      if_neg single_ne_pair.symm]
  have hmeta : b ++ [i.id.name, metaName] ≠ b ++ [i.id.name, configName] := by
    rw [ne_eq, List.append_cancel_left_eq, List.cons.injEq, and_iff_right rfl]
    decide
  refine ⟨fun n => ?_, fun i' hi' => ?_, fun i' hi' => ?_, ?_, fun l hl => ?_, hcwd.trans h.cwd⟩
  · rw [hfind, if_neg single_ne_pair, if_neg single_ne_pair]
    by_cases hn : n = i.id.name
    · subst hn
      simp
    · rw [if_neg fun heq => hn (List.cons.inj (List.append_cancel_left heq)).1, h.entry]
      simp [Ne.symm hn]
  · rcases List.mem_append.1 hi' with hi' | hi'
    · rw [hkept i' hi', h.config i' hi']
    · rw [List.mem_singleton.1 hi', hfind, if_pos rfl]
  · rcases List.mem_append.1 hi' with hi' | hi'
    · rw [hkept i' hi']
      exact h.metadata i' hi'
    · rw [List.mem_singleton.1 hi', hfind, if_neg hmeta, if_pos rfl]
      exact ⟨_, rfl⟩
  · rw [List.map_append, List.nodup_append]
    refine ⟨h.nodup, List.nodup_singleton _, ?_⟩
    rintro id hid id' hid' rfl
    rw [List.map_singleton, List.mem_singleton] at hid'
    exact hnew (hid' ▸ hid)
  · -- What was there at the start is not below the base directory.
    have hnot : ¬b ++ [i.id.name] <+: l := fun hpre => hl (hempty.find?_eq_none hpre)
    rw [hfind, if_neg, if_neg, if_neg, h.frame l hl]
    · rintro rfl
      exact hnot List.prefix_rfl
    · rintro rfl
      exact hnot (prefix_pair_iff.2 rfl)
    · rintro rfl
      exact hnot (prefix_pair_iff.2 rfl)

/-! ## Deleting -/

/-- The base directory is found without what is in the directory of a profile. -/
theorem Holds.at_hollow (hempty : store.Empty fs₀ b) (h : Holds j fs₀ fs b profiles) (id : Uuid) :
    store.At { fs with tree := fs.tree.hollow (b ++ [id.name]) } b := by
  refine hempty.1.of_frame (fun l hl => ?_) h.cwd
  rw [FileTree.find?_hollow, if_neg fun hk => hl (hempty.find?_eq_none hk.1), h.frame l hl]

/-- A deletion removes the directory of the profile, and nothing else. -/
theorem Holds.find?_delete (hempty : store.Empty fs₀ b) (h : Holds j fs₀ fs b profiles) (id : Uuid)
    (k : List Name) :
    (store.delete id.text fs).tree.find? k =
      if b ++ [id.name] <+: k then none else fs.tree.find? k := by
  have hat := hempty.1.of_frame h.frame h.cwd
  refine hat.find?_delete (h.at_hollow hempty id) ?_ k
  by_cases hid : ∃ i ∈ profiles, i.id.name = id.name
  · obtain ⟨i, hi, heq⟩ := hid
    exact .inr (heq ▸ h.isDir hi)
  · exact .inl (not_not.1 fun hfind => hid ((h.entry _).1 hfind))

/-- A deletion takes the profile away, and no other one. -/
theorem Holds.delete (hempty : store.Empty fs₀ b) (h : Holds j fs₀ fs b profiles) (id : Uuid) :
    Holds j fs₀ (store.perform j fs (.delete id)) b
      (profiles.filter fun i => decide (i.id ≠ id)) := by
  have hfind := h.find?_delete hempty id
  -- The profiles that are left have other names.
  have hkept : ∀ i ∈ profiles.filter fun i => decide (i.id ≠ id),
      i ∈ profiles ∧ id.name ≠ i.id.name := by
    intro i hi
    obtain ⟨hi, hne⟩ := List.mem_filter.1 hi
    exact ⟨hi, fun heq => of_decide_eq_true hne (Uuid.name_injective heq).symm⟩
  have hcwd : (store.perform j fs (.delete id)).cwd = fs.cwd := (fs.cwd_removeDirAll _).1
  refine ⟨fun n => ?_, fun i hi => ?_, fun i hi => ?_, ?_, fun l hl => ?_, hcwd.trans h.cwd⟩
  · rw [perform, hfind]
    by_cases hn : id.name = n
    · rw [if_pos (prefix_single_iff.2 hn), ne_eq, eq_self, not_true, false_iff]
      rintro ⟨i, hi, rfl⟩
      exact (hkept i hi).2 hn
    · rw [if_neg (mt prefix_single_iff.1 hn), h.entry]
      constructor
      · rintro ⟨i, hi, rfl⟩
        exact ⟨i, List.mem_filter.2 ⟨hi, decide_eq_true fun heq => hn (heq ▸ rfl)⟩, rfl⟩
      · rintro ⟨i, hi, rfl⟩
        exact ⟨i, (hkept i hi).1, rfl⟩
  · rw [perform, hfind, if_neg (mt prefix_pair_iff.1 (hkept i hi).2), h.config i (hkept i hi).1]
  · rw [perform, hfind, if_neg (mt prefix_pair_iff.1 (hkept i hi).2)]
    exact h.metadata i (hkept i hi).1
  · exact h.nodup.sublist (List.filter_sublist.map _)
  · rw [perform, hfind, if_neg fun hpre => hl (hempty.find?_eq_none hpre), h.frame l hl]

/-! ## Runs -/

/-- After any calls, the store holds the profiles imported and not deleted since. -/
theorem Holds.run (hempty : store.Empty fs₀ b) {ops : List StoreOp} {ids : List Uuid}
    (hids : ∀ i ∈ profiles, i.id ∈ ids) (h : Holds j fs₀ fs b profiles)
    (hops : WellBehaved ids ops) :
    Holds j fs₀ (store.run j fs ops) b (ops.foldl stepLive profiles) := by
  rw [ProfileStore.run]
  induction ops generalizing fs profiles ids with
  | nil => exact h
  | cons op ops ih =>
    rw [List.foldl_cons, List.foldl_cons]
    cases op with
    | importProfile i =>
      have hnew : i.id ∉ profiles.map Imported.id := fun hmem => by
        obtain ⟨i', hi', heq⟩ := List.mem_map.1 hmem
        exact hops.1 (heq ▸ hids i' hi')
      refine ih (fun i' hi' => ?_) (h.importProfile hempty hnew) hops.2
      rcases List.mem_append.1 hi' with hi' | hi'
      · exact List.mem_cons_of_mem _ (hids i' hi')
      · exact List.mem_cons.2 (.inl (congrArg Imported.id (List.mem_singleton.1 hi')))
    | delete id =>
      exact ih (fun i hi => hids i (List.mem_of_mem_filter hi)) (h.delete hempty id) hops.2

/-- The JSON text of a profile is decoded again. -/
theorem Holds.decodeFile_metadata (hj : j.Decodes) (h : Holds j fs₀ fs b profiles) {i : Imported}
    (hi : i ∈ profiles) :
    decodeFile j (fs.tree.find? (b ++ [i.id.name, metaName])) = some i.profile := by
  obtain ⟨mode, hmeta⟩ := h.metadata i hi
  obtain ⟨s, hencode, hs⟩ := hj i.profile
  rw [hmeta, decodeFile, hencode, Option.getD_some, Utf8.decode?_encode, Option.bind_some, hs]

/-- The profiles listed are those that the store holds. -/
theorem Holds.list_perm (hj : j.Decodes) (hat : store.At fs b) (h : Holds j fs₀ fs b profiles) :
    (store.list j fs).Perm (profiles.map Imported.profile) := by
  have hchildren : (fs.tree.children b).Perm (profiles.map fun i => i.id.name) := by
    have hnodup : (profiles.map fun i => i.id.name).Nodup := by
      have := h.nodup.map (fun id id' heq => Uuid.name_injective heq : Function.Injective Uuid.name)
      rwa [List.map_map] at this
    rw [List.perm_ext_iff_of_nodup (fs.tree.nodup_children b) hnodup]
    intro n
    rw [FileTree.mem_children, h.entry, List.mem_map]
  have hdecode : (profiles.map fun i => i.id.name).filterMap (fun n =>
      decodeFile j (fs.tree.find? (b ++ [n, metaName]))) = profiles.map Imported.profile := by
    rw [List.filterMap_map, ← List.filterMap_eq_map]
    exact List.filterMap_congr fun i hi => h.decodeFile_metadata hj hi
  rw [hat.list_eq, ← hdecode]
  exact (List.mergeSort_perm _ _).trans (hchildren.filterMap _)

/-- The path of a profile is found for the ids of those that the store holds. -/
theorem Holds.configPath_isSome_iff (hat : store.At fs b) (h : Holds j fs₀ fs b profiles) {id : Text}
    (hid : IsName (Utf8.encode id)) :
    (store.configPath fs id).isSome = true ↔ ∃ i ∈ profiles, i.id.text = id := by
  rw [hat.configPath_isSome_iff hid]
  constructor
  · intro hfind
    rw [show b ++ [⟨Utf8.encode id, hid⟩, configName] = b ++ [⟨Utf8.encode id, hid⟩] ++ [configName] by
      rw [List.append_assoc, List.singleton_append]] at hfind
    obtain ⟨i, hi, heq⟩ := (h.entry _).1 (fs.tree.isDir_of_find?_concat hfind).ne_none
    exact ⟨i, hi, Utf8.encode_injective (congrArg Name.bytes heq)⟩
  · rintro ⟨i, hi, rfl⟩
    have hconfig := h.config i hi
    rw [show (⟨Utf8.encode i.id.text, hid⟩ : Name) = i.id.name from rfl, hconfig]
    simp

/-- The configuration of a profile that is held can be read. -/
theorem Holds.read_configPath (hat : store.At fs b) (h : Holds j fs₀ fs b profiles) {i : Imported}
    (hi : i ∈ profiles) :
    ∃ path, store.configPath fs i.id.text = some path ∧ fs.read path = some (Utf8.encode i.content) :=
  hat.read_configPath_iff.2 ⟨_, h.config i hi⟩

/-- After any imports and deletions, the store lists the profiles imported and not
    deleted since, each once; a path is found for these only, and leads to what was
    imported; and a deletion changes nothing outside of the directory of the profile. -/
theorem store_run (hj : j.Decodes) (hempty : store.Empty fs₀ b) {ops : List StoreOp}
    (hops : WellBehaved [] ops) :
    let fs := store.run j fs₀ ops
    (store.list j fs).Perm ((live ops).map Imported.profile) ∧
      (∀ id : Text, IsName (Utf8.encode id) →
        ((store.configPath fs id).isSome = true ↔ ∃ i ∈ live ops, i.id.text = id)) ∧
      (∀ i ∈ live ops, ∃ path, store.configPath fs i.id.text = some path ∧
        fs.read path = some (Utf8.encode i.content)) ∧
      ∀ id : Uuid, ∀ l, ¬b ++ [id.name] <+: l →
        (store.delete id.text fs).tree.find? l = fs.tree.find? l := by
  intro fs
  have h : Holds j fs₀ fs b (live ops) :=
    (holds_init hempty).run hempty (fun _ hi => absurd hi List.not_mem_nil) hops
  have hat : store.At fs b := hempty.1.of_frame h.frame h.cwd
  refine ⟨h.list_perm hj hat, fun id hid => h.configPath_isSome_iff hat hid,
    fun i hi => h.read_configPath hat hi, fun id l hl => ?_⟩
  rw [h.find?_delete hempty id, if_neg hl]

/-- A profile that was imported first. -/
def work : Imported :=
  ⟨⟨"3f2b8c1e-9d04-4a77-8e15-0c6d5b1f2a90".toList, by decide, List.all_eq_true.1 (by decide)⟩,
    1700000000, "work".toList, "client\n".toList⟩

/-- A profile with a quote in its name, imported five seconds later. -/
def home : Imported :=
  ⟨⟨"b81d07aa-52c6-4f3e-9b7d-e4a0c95f6d38".toList, by decide, List.all_eq_true.1 (by decide)⟩,
    1700000005, "home \"2\"".toList, "dev tun\n".toList⟩

/-- The name of the base directory. -/
def profilesName : Name := ⟨lit "profiles", by decide⟩

/-- A file system with nothing but the base directory of the store. -/
def freshSystem : FileSystem where
  tree := ⟨[([profilesName], .dir)], by decide, by decide⟩

/-- The store in it. -/
def profilesStore : ProfileStore := ⟨47 :: profilesName.bytes, List.cons_ne_nil _ _⟩

/-- Two imports, and the first one deleted: the second one is left. -/
theorem store_run_two :
    let store : ProfileStore := ⟨lit "/profiles", by decide⟩
    let fs := store.run .plainJson freshSystem
      [.importProfile work, .importProfile home, .delete work.id]
    (store.list .plainJson fs).Perm [home.profile] ∧
      ∃ path, store.configPath fs home.id.text = some path ∧ fs.read path = some (lit "dev tun\n") := by
  have hempty : (⟨lit "/profiles", by decide⟩ : ProfileStore).Empty freshSystem [profilesName] :=
    ⟨⟨by decide, by decide⟩, by decide⟩
  have hops : WellBehaved [] [.importProfile work, .importProfile home, .delete work.id] :=
    ⟨List.not_mem_nil, by decide, by decide, trivial⟩
  obtain ⟨hlist, -, hread, -⟩ := store_run ProfileJson.plainJson_decodes hempty hops
  exact ⟨hlist, hread home (by decide)⟩

end ProfileStore

end OpenLawsVpn
