import OpenLawsVpn.Gui.ProfileRuns

/-!
# Deleting a profile that is listed

A profile is listed by its directory, but deleted, and its path found, by the id in
the JSON text there, whatever that id is. Only the profile is touched exactly if the
id, as a path, leads back to the directory and removes it (`delete_iff`). So it is if
the id is the name of the directory (`At.touchesOnly_of_name`), as it is after an
import; but not in a directory that was copied (`not_touchesOnly`).

What is listed stays the same exactly if no profile listed, and no directory on the way
to the base directory, is in the directory that the id leads to (`list_delete_eq_iff`).

* `TouchesOnly`: a deletion removes the directory with all in it, and nothing else;
* `touchesOnly_iff`: the criterion for any directory, listed or not;
* `At.at_delete_iff`: when the base directory is where it was;
* `list_delete_eq_iff`: the list after a deletion, which `ConnectionScreen` goes by.
-/

namespace OpenLawsVpn

open Posix

namespace ProfileStore

variable (store : ProfileStore)

/-- A deletion by the id removes the directory and nothing else, and the path by the id
    is that of its own profile, if it has one. -/
def TouchesOnly (fs : FileSystem) (b : List Name) (d : Name) (id : Text) : Prop :=
  (∀ l, (store.delete id fs).tree.find? l = if b ++ [d] <+: l then none else fs.tree.find? l) ∧
    (store.configPath fs id).bind fs.resolve =
      if fs.tree.find? (b ++ [d, configName]) = none then none else some (b ++ [d, configName])

/-- The id, as a path, leads to the base directory and does not remove it, and the
    directory is all there is in it, without a profile. -/
def Degenerate (fs : FileSystem) (b : List Name) (d : Name) (id : Text) : Prop :=
  fs.Hollows (join store.baseDir (Utf8.encode id)) b ∧ fs.tree.children b = [d] ∧
    fs.tree.find? (b ++ [d, configName]) = none ∧ d ≠ configName

variable {store} {j : ProfileJson} {fs : FileSystem} {b : List Name} {d : Name} {id : Text}

/-- The path of a profile leads into the directory that the id leads to. -/
theorem resolve_configPath {l : List Name}
    (hl : fs.resolve (join store.baseDir (Utf8.encode id)) = some l) (hdir : fs.tree.IsDir l) :
    (store.configPath fs id).bind fs.resolve =
      if fs.tree.find? (l ++ [configName]) = none then none else some (l ++ [configName]) := by
  have hresolve := fs.resolve_join_name hl hdir configName
  rw [configPath, FileSystem.exists?, FileSystem.stat,
    show lit "config.ovpn" = configName.bytes from rfl, hresolve, Option.bind_some]
  cases fs.tree.find? (l ++ [configName]) with
  | none => rfl
  | some node => exact hresolve

/-- What is listed is in a directory. -/
theorem At.isDir_of_listEntry (h : store.At fs b) {p : Profile}
    (hp : store.listEntry j fs d = some p) : fs.tree.IsDir (b ++ [d]) := by
  rw [h.listEntry_eq] at hp
  refine fs.tree.isDir_of_find?_concat (n := metaName) fun hnone => ?_
  rw [List.append_assoc, List.singleton_append] at hnone
  rw [hnone] at hp
  cases hp

/-- A deletion touches only the directory exactly if that is what it removes, or in a degenerate
    case. -/
theorem touchesOnly_iff (hdir : fs.tree.IsDir (b ++ [d])) :
    store.TouchesOnly fs b d id ↔
      fs.Removes (join store.baseDir (Utf8.encode id)) (b ++ [d]) ∨ store.Degenerate fs b d id := by
  have hdirb : fs.tree.IsDir b := fs.tree.isDir_of_find?_concat hdir.ne_none
  have happend : b ++ [d] ++ [configName] = b ++ [d, configName] := by
    rw [List.append_assoc, List.singleton_append]
  rw [TouchesOnly, delete, fs.find?_removeDirAll_iff hdir, or_and_right]
  refine or_congr (and_iff_left_of_imp fun hremoves => ?_) ?_
  · rw [resolve_configPath hremoves.1 hdir, happend]
  · rw [Degenerate, and_assoc]
    refine and_congr_right fun hhollows => and_congr_right fun hchildren => ?_
    rw [resolve_configPath hhollows.1 hdirb]
    -- The path leads to an entry of the base directory: that would be the directory itself.
    have hentry : fs.tree.find? (b ++ [configName]) = none ↔ d ≠ configName := by
      rw [← not_iff_not, ← ne_eq, ← FileTree.mem_children, hchildren, List.mem_singleton, not_not,
        eq_comm]
    constructor
    · intro heq
      split_ifs at heq with hconfig hown hown
      · exact ⟨hown, hentry.1 hconfig⟩
      · simpa using congrArg List.length (Option.some.inj heq)
    · rintro ⟨hown, hne⟩
      rw [if_pos (hentry.2 hne), if_pos hown]

/-- A profile whose id is the name of its directory. -/
theorem At.touchesOnly_of_name (h : store.At fs b)
    (hhollow : store.At { fs with tree := fs.tree.hollow (b ++ [d]) } b)
    (hdir : fs.tree.IsDir (b ++ [d])) (hid : Utf8.encode id = d.bytes) :
    store.TouchesOnly fs b d id :=
  (touchesOnly_iff hdir).2 (.inl (hid ▸ h.removes hhollow))

/-- Only the profile listed is touched exactly if its id leads back to its directory and
    removes it, or in a degenerate case. -/
theorem delete_iff (store : ProfileStore) {j : ProfileJson} {fs : FileSystem} {b : List Name}
    (h : store.At fs b) {d : Name} {p : Profile} (hp : store.listEntry j fs d = some p) :
    store.TouchesOnly fs b d p.id ↔
      fs.Removes (join store.baseDir (Utf8.encode p.id)) (b ++ [d]) ∨
        store.Degenerate fs b d p.id :=
  touchesOnly_iff (h.isDir_of_listEntry hp)

/-- The directory of a profile, and a copy of it by hand, with the same id. -/
def copyName : Name := ⟨lit "work (copy)", by decide⟩

/-- A file system in which the directory of a profile was copied. -/
def copiedSystem : FileSystem where
  tree :=
    let data := FileTree.Node.file
      ⟨Utf8.encode ((ProfileJson.plainJson.encode work.profile).getD []), 0o644⟩
    { entries := [([profilesName], .dir), ([profilesName, work.id.name], .dir),
        ([profilesName, work.id.name, metaName], data), ([profilesName, copyName], .dir),
        ([profilesName, copyName, metaName], data)]
      nodup := by decide
      parent := by decide }

/-- The profile itself can be deleted. -/
theorem touchesOnly_work :
    profilesStore.TouchesOnly copiedSystem [profilesName] work.id.name work.id.text :=
  (delete_iff profilesStore (j := .plainJson) (p := work.profile) ⟨by decide, by decide⟩ (by decide)).2
    (.inl ⟨by decide, by decide, by decide⟩)

/-- Deleting the copy removes the profile, and leaves the copy. -/
theorem not_touchesOnly :
    profilesStore.At copiedSystem [profilesName] ∧
      profilesStore.listEntry .plainJson copiedSystem copyName = some work.profile ∧
      (profilesStore.delete work.profile.id copiedSystem).tree.children [profilesName] = [copyName] ∧
      ¬profilesStore.TouchesOnly copiedSystem [profilesName] copyName work.profile.id := by
  exact ⟨⟨by decide, by decide⟩, by decide, by decide,
    fun h => absurd (h.1 [profilesName, copyName]) (by decide)⟩

/-! ## What is listed after a deletion -/

/-- A deletion by the id takes away no directory on the way to the base directory, and
    the JSON text of no profile listed. -/
def Spares (j : ProfileJson) (fs : FileSystem) (id : Text) : Prop :=
  ∀ b, store.At fs b →
    (∀ k, fs.Passes store.baseDir k → ¬fs.Clears (join store.baseDir (Utf8.encode id)) k) ∧
      ∀ n, store.listEntry j fs n ≠ none →
        ¬fs.Clears (join store.baseDir (Utf8.encode id)) (b ++ [n, metaName])

/-- If results can only be lost, as many are left exactly if none is. -/
theorem filterMap_perm_iff {α β : Type*} {l : List α} {f g : α → Option β}
    (h : ∀ a, f a = none ∨ f a = g a) :
    (l.filterMap f).Perm (l.filterMap g) ↔ ∀ a ∈ l, f a = g a := by
  refine ⟨fun hperm => ?_, fun heq => by rw [List.filterMap_congr heq]⟩
  have hlost : (fun a => (f a).isSome && (g a).isSome) = fun a => (f a).isSome := by
    funext a
    rcases h a with hnone | heq
    · rw [hnone, Option.isSome_none, Bool.false_and]
    · rw [heq, Bool.and_self]
  -- As many are left as there were, so that nothing was lost.
  have hlength := hperm.length_eq
  rw [List.length_filterMap_eq_countP, List.length_filterMap_eq_countP, ← hlost,
    ← List.countP_filter, List.countP_eq_length_filter (p := fun a => (g a).isSome),
    List.countP_eq_length] at hlength
  intro a ha
  rcases h a with hnone | heq
  · cases hg : g a with
    | none => exact hnone
    | some x =>
      have hsome := hlength a (List.mem_filter.2 ⟨ha, by rw [hg, Option.isSome_some]⟩)
      rw [hnone] at hsome
      cases hsome
  · exact heq

/-- The base directory is where it was exactly if its path passes through nothing that the
    deletion removes. -/
theorem At.at_delete_iff (h : store.At fs b) :
    store.At (store.delete id fs) b ↔
      ∀ k, fs.Passes store.baseDir k → ¬fs.Clears (join store.baseDir (Utf8.encode id)) k := by
  rw [At, delete, fs.resolve_isDir_iff h.1 (fs.cwd_removeDirAll _).1]
  refine forall₂_congr fun k hk => ?_
  have hdir : fs.tree.IsDir k := (fs.resolve_isDir_iff h.1 rfl).1 h k hk
  constructor
  · exact fun hdir' hclears => hdir'.ne_none hclears.find?_removeDirAll
  · intro hnot
    rwa [FileTree.IsDir, fs.find?_removeDirAll_of_not_clears hnot]

/-- What is listed after a deletion that leaves the base directory: the entries that were
    there, as far as they are decoded still. -/
theorem At.list_delete (h' : store.At (store.delete id fs) b) :
    store.list j (store.delete id fs) =
      ((fs.tree.children b).filterMap fun n =>
        decodeFile j ((store.delete id fs).tree.find? (b ++ [n, metaName]))).mergeSort notAfter := by
  have htrims : (store.delete id fs).tree.children b = _ := fs.trims_removeDirAll _ b
  rw [h'.list_eq, htrims, List.filterMap_filter]
  congr 2
  funext n
  rw [ite_eq_left_iff]
  intro hgone
  have hnone : (store.delete id fs).tree.find? (b ++ [n]) = none :=
    Option.not_isSome_iff_eq_none.1 hgone
  rw [FileTree.find?_eq_none_of_prefix _ hnone (prefix_pair_iff.2 rfl)]
  rfl

/-- A deletion changes what is listed exactly if it takes away a profile listed, or the
    way to the base directory. -/
theorem list_delete_eq_iff (hne : store.list j fs ≠ []) :
    store.list j (store.delete id fs) = store.list j fs ↔ store.Spares j fs id := by
  obtain ⟨b, h⟩ := at_of_list_ne_nil hne
  -- A deletion takes an entry away or leaves it as it is.
  have hdecode : ∀ n, decodeFile j ((store.delete id fs).tree.find? (b ++ [n, metaName])) = none ∨
      decodeFile j ((store.delete id fs).tree.find? (b ++ [n, metaName])) =
        decodeFile j (fs.tree.find? (b ++ [n, metaName])) := by
    intro n
    by_cases hclears : fs.Clears (join store.baseDir (Utf8.encode id)) (b ++ [n, metaName])
    · exact .inl (by rw [delete, hclears.find?_removeDirAll]; rfl)
    · exact .inr (by rw [delete, fs.find?_removeDirAll_of_not_clears hclears])
  constructor
  · intro hlist b' h'
    obtain rfl : b' = b := Option.some.inj (h'.1.symm.trans h.1)
    have hat : store.At (store.delete id fs) b' := by
      obtain ⟨c, hc⟩ := at_of_list_ne_nil (hlist ▸ hne)
      exact fs.resolve_unique h.1 hc.1 (fs.cwd_removeDirAll _).1 ▸ hc
    refine ⟨h.at_delete_iff.1 hat, fun n hn hclears => ?_⟩
    rw [hat.list_delete, h.list_eq] at hlist
    -- Two lists sorted alike have the same elements.
    have hperm := (List.mergeSort_perm _ _).symm.trans (hlist ▸ List.mergeSort_perm _ _)
    have hmem : n ∈ fs.tree.children b' := by
      obtain ⟨p, hp⟩ := Option.ne_none_iff_exists'.1 hn
      exact fs.tree.mem_children.2 (h.isDir_of_listEntry hp).ne_none
    have hkept := (filterMap_perm_iff hdecode).1 hperm.symm n hmem
    rw [delete, hclears.find?_removeDirAll, ← h.listEntry_eq] at hkept
    exact hn hkept.symm
  · intro hspares
    obtain ⟨hdirs, hentries⟩ := hspares b h
    rw [(h.at_delete_iff.2 hdirs).list_delete, h.list_eq]
    congr 1
    refine List.filterMap_congr fun n _ => ?_
    by_cases hclears : fs.Clears (join store.baseDir (Utf8.encode id)) (b ++ [n, metaName])
    · have hnone := not_not.1 fun hn => hentries n hn hclears
      rw [← h.listEntry_eq, hnone, delete, hclears.find?_removeDirAll]
      rfl
    · rw [delete, fs.find?_removeDirAll_of_not_clears hclears]

/-- The deletion of a profile whose id is the name of its directory changes what is
    listed. -/
theorem At.not_spares_of_name (h : store.At fs b)
    (hhollow : store.At { fs with tree := fs.tree.hollow (b ++ [d]) } b) {p : Profile}
    (hp : store.listEntry j fs d = some p) (hid : Utf8.encode id = d.bytes) :
    ¬store.Spares j fs id := by
  intro hspares
  have hremoves : fs.Removes (join store.baseDir (Utf8.encode id)) (b ++ [d]) :=
    hid ▸ h.removes hhollow
  refine (hspares b h).2 d (by rw [hp]; exact Option.some_ne_none p) ?_
  exact ⟨b ++ [d], hremoves.1, h.isDir_of_listEntry hp, prefix_pair_iff.2 rfl, .inr hremoves⟩

theorem Holds.not_spares (hj : j.Decodes) {fs₀ : FileSystem} (hempty : store.Empty fs₀ b)
    {profiles : List Imported} (h : Holds j fs₀ fs b profiles) {i : Imported} (hi : i ∈ profiles) :
    ¬store.Spares j fs i.id.text := by
  have hat := hempty.1.of_frame h.frame h.cwd
  refine hat.not_spares_of_name (h.at_hollow hempty i.id) (p := i.profile) ?_ rfl
  rw [hat.listEntry_eq, h.decodeFile_metadata hj hi]

end ProfileStore

end OpenLawsVpn
