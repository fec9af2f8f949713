import OpenLawsVpn.Gui.ProfileRuns

/-!
# Importing a profile

An import makes a directory and writes two files, and goes on whatever fails; the
user is told that the profile is imported in any case. The profile is there, with all
that was imported, exactly if the directory is made and both files are written as a
whole (`Fresh.complete_iff`), and so an import is all or nothing exactly then, as what
the user is told counts too (`allOrNothing_iff`). The profiles listed before are so in
any case (`Fresh.mem_list_importProfile`).

* `Fresh`: the UUID is new to the file system, which is what a generator is for;
* `Fresh.find?_importProfile`: what was there is there after any import;
* `At.read_configPath_fill_iff`: when the configuration can be read back;
* `allOrNothing_iff`: the criterion, for all outcomes of the steps;
* `not_allOrNothing`: an import of which a part is left, and of which the user is told it succeeded.
-/

namespace OpenLawsVpn

open Posix

/-- `str::trim_end_matches`, at most `n` times. -/
def trimEndMatches (pat : Text) : ℕ → Text → Text
  | 0, s => s
  | n + 1, s => if pat <:+ s then trimEndMatches pat n (s.take (s.length - pat.length)) else s

/-- The message after an import. -/
def importedToast (name : Text) : Text := "Profile '".toList ++ name ++ "' imported.".toList

/-- What an import writes to `meta.json`. -/
def ProfileJson.data (j : ProfileJson) (profile : Profile) : Bytes :=
  Utf8.encode ((j.encode profile).getD [])

/-- The name that a profile gets from that of its file. -/
def nameOfFile (fileName : Option Text) : Text :=
  let fileName := fileName.getD "profile".toList
  trimEndMatches ".ovpn".toList fileName.length fileName

namespace ProfileStore

variable (store : ProfileStore) (j : ProfileJson)

/-- What `open_file_picker` does with the file chosen, by its name and the result of
    reading it: the file system, and the message. -/
def openFilePicker (faults : ImportFaults) (id : Uuid) (secs : ℕ) (fileName : Option Text)
    (read : Except Text Text) (fs : FileSystem) : FileSystem × Text :=
  let name := nameOfFile fileName
  match read with
  | .ok content =>
    ((store.importProfile j faults id secs name content fs).1, importedToast name)
  | .error e => (fs, "Import failed: ".toList ++ e)

/-- The profile is listed, and its path leads to the content. -/
def Complete (fs : FileSystem) (id content : Text) : Prop :=
  (∃ p ∈ store.list j fs, p.id = id) ∧
    ∃ path, store.configPath fs id = some path ∧ fs.read path = some (Utf8.encode content)

/-- The listing is the same, and so are all files. -/
def Unchanged (fs fs' : FileSystem) : Prop :=
  store.list j fs' = store.list j fs ∧
    ∀ l f, fs'.tree.find? l = some (.file f) ↔ fs.tree.find? l = some (.file f)

/-- The profile is there as a whole, or nothing is changed; and it is there if the user
    is told so. -/
def AllOrNothing (fs : FileSystem) (id content : Text) (outcome : FileSystem × Text) : Prop :=
  (store.Complete j outcome.1 id content ∨ store.Unchanged j fs outcome.1) ∧
    ((∃ name, outcome.2 = importedToast name) → store.Complete j outcome.1 id content)

/-- The UUID is new: the name of no entry, also none in the path of the base directory,
    and the id of no profile. -/
structure Fresh (fs : FileSystem) (id : Uuid) : Prop where
  nowhere : ∀ l, id.name ∈ l → fs.tree.find? l = none
  notBase : .normal id.name ∉ components store.baseDir
  unlisted : ∀ l f p, fs.tree.find? l = some (.file f) → decodeFile j (some (.file f)) = some p →
    p.id ≠ id.text

variable {store j} {fs : FileSystem} {id : Uuid}

/-! ## The directory -/

/-- The path of a profile has one component more than the base directory. -/
theorem components_dir (store : ProfileStore) (n : Name) :
    components (join store.baseDir n.bytes) = components store.baseDir ++ [.normal n] := by
  rw [components_join (not_isAbsolute_name n), components_name]

theorem Fresh.notMem_start (h : store.Fresh j fs id) {path : Bytes}
    (hdir : fs.tree.IsDir (fs.start path)) : id.name ∉ fs.start path :=
  fun hmem => hdir.ne_none (h.nowhere _ hmem)

/-- If the directory could not be made, the name is nowhere still. -/
theorem Fresh.nowhere_createDirAll (h : store.Fresh j fs id) {fault : Option ℕ}
    (hr : (fs.createDirAll fault (join store.baseDir id.name.bytes)).2 = false) (k : List Name)
    (hk : id.name ∈ k) :
    (fs.createDirAll fault (join store.baseDir id.name.bytes)).1.tree.find? k = none := by
  rw [FileSystem.createDirAll.eq_def] at hr ⊢
  split_ifs at hr ⊢ with hguard
  · exact h.nowhere k hk
  rw [not_or, not_not] at hguard
  have hstart := h.notMem_start hguard.2
  cases fault with
  | some n =>
    refine FileSystem.find?_createDirs_eq_none h.nowhere hstart (fun hmem => ?_) k hk
    rw [components_dir, List.dropLast_concat] at hmem
    exact h.notBase (List.mem_of_mem_take hmem)
  | none =>
    have hbase := fun k => FileSystem.find?_createDirs_eq_none h.nowhere hstart h.notBase k
    simp only [components_dir, FileSystem.createDirs_append] at hr ⊢
    split_ifs at hr ⊢ with hmade
    · -- The way to the base directory is there: so the directory itself was made.
      have hfree := hbase (step (List.foldl step (fs.start (join store.baseDir id.name.bytes))
        (components store.baseDir)) (.normal id.name)) (List.mem_append_right _ List.mem_cons_self)
      have hdir := (FileSystem.walk_createDirs hguard.2 hmade).2
      obtain ⟨t, ht⟩ := Option.isSome_iff_exists.1
        ((FileTree.insert?_isSome_iff _ (n := .dir)).2 ⟨hfree, by rwa [step, List.dropLast_concat]⟩)
      rw [FileSystem.createDirs] at hr
      split_ifs at hr with hthere
      · cases hr
      · rw [ht] at hr
        cases hr
    · exact hbase k hk

/-- What was made is on the way to the directory, and not below it. -/
theorem Fresh.find?_createDirs_below (h : store.Fresh j fs id) {l b : List Name}
    (hl : id.name ∉ l) (hb : (components store.baseDir).foldl step l = b) (n : Name) :
    (FileSystem.createDirs fs.tree l (components store.baseDir ++ [.normal id.name])).1.find?
      (b ++ [id.name] ++ [n]) = none := by
  rcases FileSystem.find?_createDirs (t := fs.tree) (l := l)
    (components store.baseDir ++ [.normal id.name]) (b ++ [id.name] ++ [n]) with
    heq | ⟨-, -, pre, hpre, -, heq⟩
  · exact heq.trans (h.nowhere _ (by simp))
  · rcases List.prefix_concat_iff.1 hpre with rfl | hpre
    · rw [List.foldl_concat, hb] at heq
      simp [step] at heq
    · have hmem : id.name ∈ pre.foldl step l := heq ▸ by simp
      rcases mem_foldl_step hmem with hmem | hmem
      · exact absurd hmem hl
      · exact absurd (hpre.subset hmem) h.notBase

/-- If it was made, it is in the base directory, and empty; and no file is another. -/
theorem Fresh.at_createDirAll (h : store.Fresh j fs id) {fault : Option ℕ}
    (hr : (fs.createDirAll fault (join store.baseDir id.name.bytes)).2 = true) :
    let fs' := (fs.createDirAll fault (join store.baseDir id.name.bytes)).1
    ∃ b, store.At fs' b ∧ fs'.tree.IsDir (b ++ [id.name]) ∧
      (∀ n, fs'.tree.find? (b ++ [id.name] ++ [n]) = none) ∧
      ∀ l f, fs'.tree.find? l = some (.file f) ↔ fs.tree.find? l = some (.file f) := by
  intro fs'
  have hfs' : fs' = (fs.createDirAll fault (join store.baseDir id.name.bytes)).1 := rfl
  rw [FileSystem.createDirAll.eq_def] at hr hfs'
  split_ifs at hr hfs' with hguard
  rw [not_or, not_not] at hguard
  cases fault with
  | some n => cases hr
  | none =>
    -- The id is no absolute path, so the walk starts where that to the base directory does.
    have hstart : fs.start (join store.baseDir id.name.bytes) = fs.start store.baseDir := by
      rw [FileSystem.start, FileSystem.start]
      exact if_congr (isAbsolute_join (not_isAbsolute_name _) store.baseDir_ne) rfl rfl
    rw [components_dir, hstart] at hr hfs'
    rw [hstart] at hguard
    obtain ⟨hwalk, hdir⟩ := FileSystem.walk_createDirs hguard.2 hr
    rw [walk_append, Option.bind_eq_some_iff] at hwalk
    obtain ⟨b, hb, hname⟩ := hwalk
    have hdirb := isDir_of_walk hname hdir
    rw [List.foldl_concat, ← walk_eq_foldl hb] at hdir
    have hnul : 0 ∉ store.baseDir := by
      have := hguard.1
      rw [mem_join (not_isAbsolute_name _) (by decide), not_or] at this
      exact this.1
    -- The base directory is resolved, and the directories of the base and of the id are there.
    refine ⟨b, ⟨?_, ?_⟩, ?_, fun n => ?_, fun l f => ?_⟩
    · rw [hfs', FileSystem.resolve, if_neg (not_or.2 ⟨store.baseDir_ne, hnul⟩)]
      exact hb
    · rw [hfs']
      exact hdirb
    · rw [hfs']
      exact hdir
    · rw [hfs']
      exact h.find?_createDirs_below (h.notMem_start hguard.2) (walk_eq_foldl hb).symm n
    · rw [hfs']
      exact FileSystem.find?_createDirs_eq_file_iff _ l f

/-! ## The files -/

/-- Without the directory, nothing is written. -/
theorem fill_of_nowhere (hnowhere : ∀ k, id.name ∈ k → fs.tree.find? k = none)
    (faults : ImportFaults) (profile : Profile) (content : Text) :
    fill j faults (join store.baseDir id.name.bytes) profile content fs = fs := by
  have hnone := fs.resolve_join_join_eq_none store.baseDir_ne hnowhere
  rw [fill, setPrivate, show lit "config.ovpn" = configName.bytes from rfl,
    show lit "meta.json" = metaName.bytes from rfl, fs.write_of_resolve_eq_none (hnone configName),
    fs.setMode_of_resolve_eq_none (hnone configName), ite_self,
    fs.write_of_resolve_eq_none (hnone metaName)]

/-- Without the directory, there is no path to the profile. -/
theorem configPath_fill_eq_none (hnowhere : ∀ k, id.name ∈ k → fs.tree.find? k = none)
    (faults : ImportFaults) (profile : Profile) (content : Text) :
    store.configPath (fill j faults (join store.baseDir id.name.bytes) profile content fs) id.text =
      none := by
  rw [fill_of_nowhere hnowhere, configPath, FileSystem.exists?, FileSystem.stat,
    show fs.resolve (join (join store.baseDir (Utf8.encode id.text)) (lit "config.ovpn")) = none
      from fs.resolve_join_join_eq_none store.baseDir_ne hnowhere configName]
  rfl

section Filled

variable {b : List Name} (h : store.At fs b) (hdir : fs.tree.IsDir (b ++ [id.name]))
  (hempty : ∀ n, fs.tree.find? (b ++ [id.name] ++ [n]) = none)
  (faults : ImportFaults) {profile : Profile} (content : Text)

include h hdir hempty

/-- Writing the files of a profile leaves the base directory where it is. -/
theorem At.at_fill :
    store.At (fill j faults (join store.baseDir id.name.bytes) profile content fs) b := by
  have hl := fs.resolve_join_name h.1 h.2 id.name
  refine h.of_frame (fun l hfound => ?_) (cwd_fill ..)
  rw [find?_fill hl hdir hempty, if_neg, if_neg]
  all_goals
    rintro rfl
    exact hfound (hempty _)

/-- The configuration can be read back exactly if it was written whole. -/
theorem At.read_configPath_fill_iff :
    (∃ path, store.configPath
          (fill j faults (join store.baseDir id.name.bytes) profile content fs) id.text = some path ∧
        (fill j faults (join store.baseDir id.name.bytes) profile content fs).read path =
          some (Utf8.encode content)) ↔
      FileSystem.written faults.config (Utf8.encode content) = some (Utf8.encode content) := by
  have hl := fs.resolve_join_name h.1 h.2 id.name
  have hfind :
      (fill j faults (join store.baseDir id.name.bytes) profile content fs).tree.find?
          (b ++ [id.name, configName]) =
        (FileSystem.written faults.config (Utf8.encode content)).map fun c =>
          .file ⟨c, configMode faults fs⟩ := by
    rw [find?_fill hl hdir hempty, if_pos (by rw [List.append_assoc, List.singleton_append])]
  rw [(h.at_fill hdir hempty faults content).read_configPath_iff, hfind]
  constructor
  · rintro ⟨mode, hsome⟩
    obtain ⟨c, hc, heq⟩ := Option.map_eq_some_iff.1 hsome
    rw [hc, (File.mk.inj (FileTree.Node.file.inj heq)).1]
  · intro hsome
    exact ⟨_, by rw [hsome, Option.map_some]⟩

/-- The profile is listed exactly if its JSON text is written as a whole. -/
theorem At.mem_list_fill_iff {s : Text} (hs : j.encode profile = some s)
    (hdecode : j.decode s = some profile) (hj : j.Delimits) (hid : profile.id = id.text)
    (hunlisted : ∀ l f p, fs.tree.find? l = some (.file f) →
      decodeFile j (some (.file f)) = some p → p.id ≠ id.text) :
    (∃ p ∈ store.list j (fill j faults (join store.baseDir id.name.bytes) profile content fs),
        p.id = id.text) ↔
      FileSystem.written faults.metadata (Utf8.encode s) = some (Utf8.encode s) := by
  have hl := fs.resolve_join_name h.1 h.2 id.name
  have hat : store.At (fill j faults (join store.baseDir id.name.bytes) profile content fs) b :=
    h.at_fill hdir hempty faults content
  have hfind := find?_fill (j := j) hl hdir hempty faults profile content
  rw [hs, Option.getD_some] at hfind
  have hne : ∀ n, b ++ [n, metaName] ≠ b ++ [id.name] ++ [configName] := by
    intro n heq
    rw [List.append_assoc, List.append_cancel_left_eq] at heq
    exact absurd (List.cons.inj (List.cons.inj heq).2).1 (by decide)
  constructor
  · rintro ⟨p, hp, hpid⟩
    obtain ⟨n, hn⟩ := hat.mem_list_iff.1 hp
    rw [hfind, if_neg (hne n)] at hn
    split_ifs at hn with heq
    · cases hwritten : FileSystem.written faults.metadata (Utf8.encode s) with
      | none =>
        rw [hwritten] at hn
        cases hn
      | some c =>
        rw [hwritten, Option.map_some, decodeFile] at hn
        obtain ⟨t, ht, htp⟩ := Option.bind_eq_some_iff.1 hn
        obtain rfl := Utf8.decode?_eq_some_iff.1 ht
        have hpre := Utf8.prefix_of_encode_prefix (FileSystem.prefix_of_written hwritten)
        -- What is cut off is not decoded.
        by_cases hts : t = s
        · rw [hts]
        · rw [hj _ _ _ hs hpre hts] at htp
          cases htp
    · rcases hfile : fs.tree.find? (b ++ [n, metaName]) with _ | _ | f
      · rw [hfile] at hn
        cases hn
      · rw [hfile] at hn
        cases hn
      · rw [hfile] at hn
        exact absurd hpid (hunlisted _ _ _ hfile hn)
  · intro hwritten
    refine ⟨profile, hat.mem_list_iff.2 ⟨id.name, ?_⟩, hid⟩
    rw [hfind, if_neg (hne _), if_pos (by rw [List.append_assoc, List.singleton_append]), hwritten,
      Option.map_some, decodeFile, Utf8.decode?_encode, Option.bind_some, hdecode]

end Filled

/-- An import keeps all that was there, whatever fails. -/
theorem Fresh.find?_importProfile (h : store.Fresh j fs id) (faults : ImportFaults) (secs : ℕ)
    (name content : Text) {l : List Name} (hl : fs.tree.find? l ≠ none) :
    (store.importProfile j faults id secs name content fs).1.tree.find? l = fs.tree.find? l := by
  have hmade := fs.find?_createDirAll faults.createDir (join store.baseDir id.name.bytes) hl
  rw [importProfile_eq]
  cases hr : (fs.createDirAll faults.createDir (join store.baseDir id.name.bytes)).2 with
  | false => rw [fill_of_nowhere (h.nowhere_createDirAll hr), hmade]
  | true =>
    obtain ⟨b, hat, hdir, hempty, -⟩ := h.at_createDirAll hr
    have hresolve := FileSystem.resolve_join_name _ hat.1 hat.2 id.name
    rw [find?_fill hresolve hdir hempty, if_neg, if_neg, hmade]
    -- The files are where nothing was.
    all_goals
      rintro rfl
      exact hl (hmade ▸ hempty _)

/-- An import leaves the working directory as it is. -/
theorem cwd_importProfile (faults : ImportFaults) (id : Uuid) (secs : ℕ) (name content : Text) :
    (store.importProfile j faults id secs name content fs).1.cwd = fs.cwd := by
  rw [importProfile_eq, cwd_fill, FileSystem.cwd_createDirAll]

/-- The profiles listed before are so after an import. -/
theorem Fresh.mem_list_importProfile (h : store.Fresh j fs id) (faults : ImportFaults) (secs : ℕ)
    (name content : Text) {p : Profile} (hp : p ∈ store.list j fs) :
    p ∈ store.list j (store.importProfile j faults id secs name content fs).1 := by
  obtain ⟨b, hat⟩ := at_of_list_ne_nil (List.ne_nil_of_mem hp)
  have hkeep := fun l => h.find?_importProfile faults secs name content (l := l)
  have hat' := hat.of_frame hkeep (cwd_importProfile faults id secs name content)
  obtain ⟨n, hn⟩ := hat.mem_list_iff.1 hp
  refine hat'.mem_list_iff.2 ⟨n, ?_⟩
  rwa [hkeep]
  intro hnone
  rw [hnone] at hn
  cases hn

/-! ## All or nothing -/

/-- The profile is there as a whole exactly if its directory is made and both files are
    written as a whole; the mode does not matter. -/
theorem Fresh.complete_iff (hj : j.Decodes) (hj' : j.Delimits) (h : store.Fresh j fs id)
    (faults : ImportFaults) (secs : ℕ) (name content : Text) :
    store.Complete j (store.importProfile j faults id secs name content fs).1 id.text content ↔
      (fs.createDirAll faults.createDir (join store.baseDir id.name.bytes)).2 = true ∧
        FileSystem.written faults.config (Utf8.encode content) = some (Utf8.encode content) ∧
        FileSystem.written faults.metadata (j.data ⟨id.text, name, chronoNow secs⟩) =
          some (j.data ⟨id.text, name, chronoNow secs⟩) := by
  obtain ⟨s, hs, hdecode⟩ := hj ⟨id.text, name, chronoNow secs⟩
  rw [importProfile_eq, Complete, ProfileJson.data, hs, Option.getD_some]
  by_cases hmade : (fs.createDirAll faults.createDir (join store.baseDir id.name.bytes)).2 = true
  · obtain ⟨b, hat, hdir, hempty, hfiles⟩ := h.at_createDirAll hmade
    rw [hat.read_configPath_fill_iff hdir hempty,
      hat.mem_list_fill_iff hdir hempty faults content hs hdecode hj' rfl fun l f p hfile =>
        h.unlisted l f p ((hfiles l f).1 hfile), and_iff_right hmade, and_comm]
  · rw [configPath_fill_eq_none (h.nowhere_createDirAll (Bool.eq_false_iff.2 hmade))]
    simp [hmade]

/-- An import is all or nothing exactly then. -/
theorem allOrNothing_iff (store : ProfileStore) {j : ProfileJson} {fs : FileSystem} {id : Uuid}
    (hj : j.Decodes) (hj' : j.Delimits) (hfresh : store.Fresh j fs id) (faults : ImportFaults)
    (secs : ℕ) (fileName : Option Text) (content : Text) :
    store.AllOrNothing j fs id.text content
        (store.openFilePicker j faults id secs fileName (.ok content) fs) ↔
      (fs.createDirAll faults.createDir (join store.baseDir id.name.bytes)).2 = true ∧
        FileSystem.written faults.config (Utf8.encode content) = some (Utf8.encode content) ∧
        FileSystem.written faults.metadata (j.data ⟨id.text, nameOfFile fileName, chronoNow secs⟩) =
          some (j.data ⟨id.text, nameOfFile fileName, chronoNow secs⟩) := by
  rw [← hfresh.complete_iff hj hj', AllOrNothing, openFilePicker]
  -- The user is always told that the profile is imported.
  exact ⟨fun h => h.2 ⟨_, rfl⟩, fun h => ⟨.inl h, fun _ => h⟩⟩

/-- Every UUID is new where there is nothing but the base directory. -/
theorem fresh_freshSystem (id : Uuid) : profilesStore.Fresh .plainJson freshSystem id := by
  have hname : id.name ≠ profilesName := by
    intro heq
    -- No `p` is in a UUID.
    have hmem : (112 : UInt8) ∈ Utf8.encode id.text := by
      rw [show Utf8.encode id.text = lit "profiles" from congrArg Name.bytes heq]
      decide
    exact absurd (id.uuidChar _ (Utf8.mem_of_mem_encode (by decide) hmem)) (by decide)
  have hfound : ∀ l n, freshSystem.tree.find? l = some n → l ⊆ [profilesName] ∧ n = .dir := by
    intro l n hn
    by_cases hl : l = []
    · subst hl
      rw [FileTree.find?_nil] at hn
      exact ⟨List.nil_subset _, (Option.some.inj hn).symm⟩
    · have hmem := (freshSystem.tree.find?_eq_some_iff hl).1 hn
      obtain ⟨rfl, rfl⟩ := Prod.mk.inj (List.mem_singleton.1 hmem)
      exact ⟨List.Subset.refl _, rfl⟩
  refine ⟨fun l hl => ?_, fun hmem => ?_, fun l f p hfile => ?_⟩
  · by_contra hsome
    obtain ⟨n, hn⟩ := Option.ne_none_iff_exists'.1 hsome
    exact hname (List.mem_singleton.1 ((hfound l n hn).1 hl))
  · rw [show components profilesStore.baseDir = [.normal profilesName] by decide] at hmem
    exact hname (Component.normal.inj (List.mem_singleton.1 hmem))
  · cases (hfound l _ hfile).2

/-- An import is all or nothing if only the mode cannot be set. -/
theorem allOrNothing_of_mode :
    profilesStore.AllOrNothing .plainJson freshSystem work.id.text work.content
      (profilesStore.openFilePicker .plainJson { mode := true } work.id work.secs
        (some "work.ovpn".toList) (.ok work.content) freshSystem) :=
  (allOrNothing_iff _ ProfileJson.plainJson_decodes ProfileJson.plainJson_delimits
    (fresh_freshSystem _) _ _ _ _).2 ⟨by decide +kernel, rfl, rfl⟩

/-- If `meta.json` is not opened, the directory and the profile are left, and no profile
    is listed; the user is told that it is imported. -/
theorem not_allOrNothing :
    let outcome := profilesStore.openFilePicker .plainJson { metadata := some .notOpened } work.id
      work.secs (some "work.ovpn".toList) (.ok work.content) freshSystem
    profilesStore.Fresh .plainJson freshSystem work.id ∧
      outcome.2 = "Profile 'work' imported.".toList ∧
      profilesStore.list .plainJson outcome.1 = [] ∧
      outcome.1.tree.find? [profilesName, work.id.name] = some .dir ∧
      ¬profilesStore.AllOrNothing .plainJson freshSystem work.id.text work.content outcome := by
  intro outcome
  have hlist : profilesStore.list .plainJson outcome.1 = [] := by decide +kernel
  refine ⟨fresh_freshSystem _, by decide +kernel, hlist, by decide +kernel, fun h => ?_⟩
  obtain ⟨⟨p, hp, -⟩, -⟩ := h.2 ⟨_, rfl⟩
  rw [hlist] at hp
  cases hp

end ProfileStore

end OpenLawsVpn
