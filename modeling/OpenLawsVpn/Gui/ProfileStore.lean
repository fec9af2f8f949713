import OpenLawsVpn.Gui.ProfileJson
import OpenLawsVpn.Lib.Posix

/-!
# The profile store

The profiles of the GUI are directories in the base directory of the store. Each
holds the profile, `config.ovpn`, and a JSON text with the id, the name and the
time of the import, `meta.json`.

A profile is *listed* if the JSON text in its directory can be decoded, with the id
it has there; it is *deleted*, and its path found, by joining an id to the base
directory. The outcomes of the steps of an import are a parameter (`ImportFaults`).

* `Uuid`: the text of an id, with the proof that it has the form of one, so that it can be the
  name of a directory (`Uuid.isName`);
* `At.list_eq`, `At.configPath_isSome_iff`: listing and finding, by what is in the directories;
* `importProfile_eq`: an import in two halves, making the directory and filling it;
* `At.removes`, `At.find?_delete`: deleting by a name.
-/

namespace OpenLawsVpn

open Posix

/-- A letter of a UUID. -/
def isUuidChar (c : Char) : Bool := ('0' ≤ c && c ≤ '9') || ('a' ≤ c && c ≤ 'f') || c = '-'

/-- A UUID, as it is written. -/
structure Uuid where
  text : Text
  length : text.length = 36
  uuidChar : ∀ c ∈ text, isUuidChar c = true
  deriving DecidableEq

/-- The text of a UUID can be the name of a directory. -/
theorem Uuid.isName (id : Uuid) : IsName (Utf8.encode id.text) := by
  have hnot : ∀ b : UInt8, b < 0x80 → isUuidChar (Char.ofNat b.toNat) = false →
      b ∉ Utf8.encode id.text := by
    intro b hb hchar hmem
    rw [id.uuidChar _ (Utf8.mem_of_mem_encode hb hmem)] at hchar
    cases hchar
  have hdot := hnot 46 (by decide) (by decide)
  refine ⟨fun hnil => ?_, fun h => ?_, fun h => ?_, hnot 47 (by decide) (by decide),
    hnot 0 (by decide) (by decide)⟩
  · have htext := Utf8.decode_encode id.text
    rw [hnil] at htext
    have hlength := id.length
    rw [← htext] at hlength
    cases hlength
  all_goals exact hdot (by simp [h])

/-- The name of the directory of a profile. -/
def Uuid.name (id : Uuid) : Name := ⟨Utf8.encode id.text, id.isName⟩

/-- Different UUIDs have different texts. -/
theorem Uuid.text_injective {id id' : Uuid} (h : id.text = id'.text) : id = id' := by
  obtain ⟨text, _, _⟩ := id
  obtain ⟨text', _, _⟩ := id'
  obtain rfl : text = text' := h
  rfl

theorem Uuid.name_injective {id id' : Uuid} (h : id.name = id'.name) : id = id' :=
  Uuid.text_injective (Utf8.encode_injective (Name.mk.inj h))

/-- `chrono_now`, at a reading of the clock. -/
def chronoNow (secs : ℕ) : Text := Nat.toDigits 10 secs

/-- What goes wrong in an import: the directory is not made, but for some on the way to
    it; a file is not written, or not as a whole; the mode is not set. -/
structure ImportFaults where
  createDir : Option ℕ := none
  config : Option FileSystem.WriteFault := none
  mode : Bool := false
  metadata : Option FileSystem.WriteFault := none

/-- `set_private`, which may fail. -/
def setPrivate (fails : Bool) (path : Bytes) (fs : FileSystem) : FileSystem :=
  if fails then fs else fs.setMode path 0o600

/-- The store, by its base directory. -/
structure ProfileStore where
  baseDir : Bytes
  baseDir_ne : baseDir ≠ []

/-- `dirs_next`, with the values of `XDG_DATA_HOME` and `HOME`. -/
def dirsNext (xdgDataHome home : Option Bytes) : Bytes :=
  join (xdgDataHome.getD (join (home.getD (lit "/tmp")) (lit ".local/share")))
    (lit "openlawsvpn/profiles")

theorem dirsNext_ne (xdgDataHome home : Option Bytes) : dirsNext xdgDataHome home ≠ [] := by
  have hrelative : ¬IsAbsolute (lit "openlawsvpn/profiles") := by decide
  rw [dirsNext, join, if_neg hrelative]
  split_ifs <;> exact List.append_ne_nil_of_right_ne_nil _ (by decide)

namespace ProfileStore

/-- `ProfileStore::new`: the base directory is made, if it can be. -/
def new (xdgDataHome home : Option Bytes) (fault : Option ℕ) (fs : FileSystem) :
    ProfileStore × FileSystem :=
  let base := dirsNext xdgDataHome home
  (⟨base, dirsNext_ne xdgDataHome home⟩, (fs.createDirAll fault base).1)

variable (store : ProfileStore) (j : ProfileJson)

/-- The order of the profiles in the list. A text is smaller than another one if its
    bytes are, which is the order of its characters. -/
def notAfter (a b : Profile) : Bool := decide (¬b.createdAt < a.createdAt)

/-- What the loop of `list` pushes for an entry of the base directory. -/
def listEntry (fs : FileSystem) (entry : Name) : Option Profile :=
  (fs.read (join (join store.baseDir entry.bytes) (lit "meta.json"))).bind fun data =>
    (Utf8.decode? data).bind j.decode

/-- `ProfileStore::list`. -/
def list (fs : FileSystem) : List Profile :=
  match fs.readDir store.baseDir with
  | none => []
  | some entries => (entries.filterMap (store.listEntry j fs)).mergeSort notAfter

/-- `ProfileStore::import`, with the UUID generated and the reading of the clock. -/
def importProfile (faults : ImportFaults) (id : Uuid) (secs : ℕ) (name content : Text)
    (fs : FileSystem) : FileSystem × Text :=
  let dir := join store.baseDir (Utf8.encode id.text)
  let fs := (fs.createDirAll faults.createDir dir).1
  let configPath := join dir (lit "config.ovpn")
  let fs := fs.write faults.config configPath (Utf8.encode content)
  let fs := setPrivate faults.mode configPath fs
  let profile : Profile := ⟨id.text, name, chronoNow secs⟩
  let metadata := (j.encode profile).getD []
  (fs.write faults.metadata (join dir (lit "meta.json")) (Utf8.encode metadata), id.text)

/-- `ProfileStore::delete`. -/
def delete (id : Text) (fs : FileSystem) : FileSystem :=
  fs.removeDirAll (join store.baseDir (Utf8.encode id))

/-- `ProfileStore::config_path`. -/
def configPath (fs : FileSystem) (id : Text) : Option Bytes :=
  let p := join (join store.baseDir (Utf8.encode id)) (lit "config.ovpn")
  if fs.exists? p then some p else none

/-! ## The files of a profile -/

/-- The file that has the configuration. -/
def configName : Name := ⟨lit "config.ovpn", by decide⟩

/-- The file that has the profile. -/
def metaName : Name := ⟨lit "meta.json", by decide⟩

/-- The base directory of the store is at the location. -/
def At (fs : FileSystem) (b : List Name) : Prop :=
  fs.resolve store.baseDir = some b ∧ fs.tree.IsDir b

variable {store j} {fs : FileSystem} {b : List Name}

/-- The base directory is found as long as what was there is. -/
theorem At.of_frame {fs' : FileSystem} (h : store.At fs b)
    (hframe : ∀ l, fs.tree.find? l ≠ none → fs'.tree.find? l = fs.tree.find? l)
    (hcwd : fs'.cwd = fs.cwd) : store.At fs' b := by
  have hdir : ∀ k, fs.tree.IsDir k → fs'.tree.IsDir k := fun k hk => by
    rw [FileTree.IsDir, hframe k hk.ne_none, hk]
  exact ⟨FileSystem.resolve_mono hdir hcwd h.1, hdir b h.2⟩

/-- What is found by two names, one after the other. -/
theorem stat_join_join {path : Bytes} {l : List Name} (hl : fs.resolve path = some l)
    (hdir : fs.tree.IsDir l) (n m : Name) :
    fs.stat (join (join path n.bytes) m.bytes) = fs.tree.find? (l ++ [n, m]) := by
  have hn := fs.resolve_join_name hl hdir n
  have hm := fs.resolve_join (fs.ne_nil_of_resolve hn).1 (not_isAbsolute_name m)
    m.isName.2.2.2.2
  rw [FileSystem.stat, hm, hn, Option.bind_some, components_name, walk_name]
  split_ifs with hdir'
  · rw [Option.bind_some, List.append_assoc, List.singleton_append]
  · -- Nothing is in what is no directory.
    rw [Option.bind_none]
    by_contra hfind
    refine hdir' (fs.tree.isDir_of_find?_concat (n := m) ?_)
    rw [List.append_assoc, List.singleton_append]
    exact fun h => hfind h.symm

/-- The profile that a file decodes to. -/
def decodeFile (j : ProfileJson) : Option (FileTree.Node File) → Option Profile
  | some (.file f) => (Utf8.decode? f.content).bind j.decode
  | _ => none

/-- An entry of the list is what its `meta.json` decodes to. -/
theorem At.listEntry_eq (h : store.At fs b) (n : Name) :
    store.listEntry j fs n = decodeFile j (fs.tree.find? (b ++ [n, metaName])) := by
  rw [listEntry, show lit "meta.json" = metaName.bytes from rfl, FileSystem.read,
    stat_join_join h.1 h.2]
  rcases fs.tree.find? (b ++ [n, metaName]) with _ | _ | f <;> rfl

/-- The list has what the files `meta.json` decode to, in order. -/
theorem At.list_eq (h : store.At fs b) :
    store.list j fs =
      ((fs.tree.children b).filterMap fun n =>
        decodeFile j (fs.tree.find? (b ++ [n, metaName]))).mergeSort notAfter := by
  rw [list, FileSystem.readDir, h.1]
  simp only [if_pos h.2]
  congr 1
  exact List.filterMap_congr fun n _ => h.listEntry_eq n

/-- Where a profile is listed, the base directory is found. -/
theorem at_of_list_ne_nil (h : store.list j fs ≠ []) : ∃ b, store.At fs b := by
  rw [list, FileSystem.readDir] at h
  cases hresolve : fs.resolve store.baseDir with
  | none => simp [hresolve] at h
  | some b =>
    by_cases hdir : fs.tree.IsDir b
    · exact ⟨b, hresolve, hdir⟩
    · simp [hresolve, hdir] at h

/-- The profiles listed are those that the files in the directories decode to. -/
theorem At.mem_list_iff (h : store.At fs b) {p : Profile} :
    p ∈ store.list j fs ↔ ∃ n, decodeFile j (fs.tree.find? (b ++ [n, metaName])) = some p := by
  rw [h.list_eq, List.mem_mergeSort, List.mem_filterMap]
  refine exists_congr fun n => and_iff_right_of_imp fun hp => ?_
  rw [FileTree.mem_children]
  have hfound : fs.tree.find? (b ++ [n, metaName]) ≠ none := fun hnone => by
    rw [hnone] at hp
    cases hp
  rw [← List.singleton_append, ← List.append_assoc] at hfound
  rw [fs.tree.isDir_of_find?_concat hfound]
  simp

/-- The path of a profile whose id is a name. -/
theorem At.configPath_isSome_iff (h : store.At fs b) {id : Text} (hid : IsName (Utf8.encode id)) :
    (store.configPath fs id).isSome = true ↔
      fs.tree.find? (b ++ [⟨Utf8.encode id, hid⟩, configName]) ≠ none := by
  have hstat := stat_join_join h.1 h.2 ⟨Utf8.encode id, hid⟩ configName
  dsimp only at hstat
  rw [configPath, FileSystem.exists?, show lit "config.ovpn" = configName.bytes from rfl, hstat]
  cases fs.tree.find? (b ++ [⟨Utf8.encode id, hid⟩, configName]) <;> simp

/-- What is read by the path of a profile is the file in its directory. -/
theorem At.read_configPath_iff (h : store.At fs b) {id : Uuid} {content : Bytes} :
    (∃ path, store.configPath fs id.text = some path ∧ fs.read path = some content) ↔
      ∃ mode, fs.tree.find? (b ++ [id.name, configName]) = some (.file ⟨content, mode⟩) := by
  have hstat := stat_join_join h.1 h.2 id.name configName
  rw [configPath, FileSystem.exists?, show join (join store.baseDir (Utf8.encode id.text))
    (lit "config.ovpn") = join (join store.baseDir id.name.bytes) configName.bytes from rfl, hstat]
  constructor
  · rintro ⟨path, hpath, hread⟩
    split_ifs at hpath
    obtain rfl := Option.some.inj hpath
    rw [FileSystem.read, hstat] at hread
    rcases hfind : fs.tree.find? (b ++ [id.name, configName]) with _ | _ | ⟨c, mode⟩
    · simp [hfind] at hread
    · simp [hfind] at hread
    · simp only [hfind, Option.some.injEq] at hread
      exact ⟨mode, by rw [hread]⟩
  · rintro ⟨mode, hfind⟩
    rw [hfind]
    refine ⟨_, if_pos rfl, ?_⟩
    rw [FileSystem.read, hstat, hfind]

/-! ## Filling a directory -/

/-- The files of an import, in the directory made for it. -/
def fill (j : ProfileJson) (faults : ImportFaults) (dir : Bytes) (profile : Profile) (content : Text)
    (fs : FileSystem) : FileSystem :=
  let configPath := join dir (lit "config.ovpn")
  let fs := setPrivate faults.mode configPath (fs.write faults.config configPath (Utf8.encode content))
  fs.write faults.metadata (join dir (lit "meta.json")) (Utf8.encode ((j.encode profile).getD []))

/-- An import creates the directory and fills it. -/
theorem importProfile_eq (faults : ImportFaults) (id : Uuid) (secs : ℕ) (name content : Text) :
    store.importProfile j faults id secs name content fs =
      (fill j faults (join store.baseDir id.name.bytes) ⟨id.text, name, chronoNow secs⟩ content
        (fs.createDirAll faults.createDir (join store.baseDir id.name.bytes)).1, id.text) := rfl

/-- The mode of the profile, when it is written. -/
def configMode (faults : ImportFaults) (fs : FileSystem) : ℕ :=
  if faults.mode then fs.newMode else 0o600

/-- The profile is written, as far as it goes, and private unless that fails. -/
theorem find?_writePrivate {path : Bytes} {l : List Name} (hl : fs.resolve path = some l)
    (hnone : fs.tree.find? l = none) (hdir : fs.tree.IsDir l.dropLast) (faults : ImportFaults)
    (content : Bytes) (k : List Name) :
    (setPrivate faults.mode path (fs.write faults.config path content)).tree.find? k =
      if k = l then
        (FileSystem.written faults.config content).map fun c => .file ⟨c, configMode faults fs⟩
      else fs.tree.find? k := by
  have hwrite := fs.find?_write hl hnone hdir faults.config content k
  have hresolve : (fs.write faults.config path content).resolve path = some l := by
    rw [FileSystem.resolve_congr (fs.isDir_write hl hnone hdir _ _) (fs.cwd_write _ _ _).1, hl]
  rw [setPrivate, configMode]
  split_ifs with hmode hk hk
  · rw [hwrite, if_pos hk]
  · rw [hwrite, if_neg hk]
  · rw [FileSystem.find?_setMode _ hresolve, if_pos hk, hwrite, if_pos hk, Option.map_map]
    rfl
  · rw [FileSystem.find?_setMode _ hresolve, if_neg hk, hwrite, if_neg hk]

/-- What is found after a directory without entries is filled. -/
theorem find?_fill {dir : Bytes} {l : List Name} (hl : fs.resolve dir = some l)
    (hdir : fs.tree.IsDir l) (hempty : ∀ n, fs.tree.find? (l ++ [n]) = none)
    (faults : ImportFaults) (profile : Profile) (content : Text) (k : List Name) :
    (fill j faults dir profile content fs).tree.find? k =
      if k = l ++ [configName] then
        (FileSystem.written faults.config (Utf8.encode content)).map fun c =>
          .file ⟨c, configMode faults fs⟩
      else if k = l ++ [metaName] then
        (FileSystem.written faults.metadata (Utf8.encode ((j.encode profile).getD []))).map fun c =>
          .file ⟨c, fs.newMode⟩
      else fs.tree.find? k := by
  have hdir' : ∀ n : Name, fs.tree.IsDir (l ++ [n]).dropLast := fun n => by
    rwa [List.dropLast_concat]
  have hconfig := fs.resolve_join_name hl hdir configName
  have hfind := find?_writePrivate hconfig (hempty _) (hdir' _) faults (Utf8.encode content)
  -- The directories are the same, so the second path leads where it did.
  have hsame : ∀ k, (setPrivate faults.mode (join dir configName.bytes)
      (fs.write faults.config (join dir configName.bytes) (Utf8.encode content))).tree.IsDir k ↔
        fs.tree.IsDir k := by
    intro k
    rw [FileTree.IsDir, FileTree.IsDir, hfind]
    split_ifs with hk
    · rw [hk, hempty]
      cases FileSystem.written faults.config (Utf8.encode content) <;> simp
    · rfl
  have hcwd : (setPrivate faults.mode (join dir configName.bytes)
      (fs.write faults.config (join dir configName.bytes) (Utf8.encode content))).cwd = fs.cwd ∧
        (setPrivate faults.mode (join dir configName.bytes)
          (fs.write faults.config (join dir configName.bytes) (Utf8.encode content))).newMode =
            fs.newMode := by
    rw [setPrivate]
    split_ifs
    · exact fs.cwd_write _ _ _
    · exact ⟨(FileSystem.cwd_setMode _ _ _).1.trans (fs.cwd_write _ _ _).1,
        (FileSystem.cwd_setMode _ _ _).2.trans (fs.cwd_write _ _ _).2⟩
  have hmeta := (FileSystem.resolve_congr hsame hcwd.1 (join dir metaName.bytes)).trans
    (fs.resolve_join_name hl hdir metaName)
  have hne : l ++ [metaName] ≠ l ++ [configName] := by
    rw [ne_eq, List.append_cancel_left_eq]
    decide
  rw [fill, show lit "config.ovpn" = configName.bytes from rfl,
    show lit "meta.json" = metaName.bytes from rfl,
    FileSystem.find?_write _ hmeta (by rw [hfind, if_neg hne, hempty]) ((hsame _).2 (hdir' _)),
    hfind, hcwd.2]
  by_cases hk : k = l ++ [metaName]
  · rw [if_pos hk, if_neg (hk ▸ hne), if_pos hk]
  · rw [if_neg hk, if_neg hk]

/-- Filling the directory leaves the working directory as it is. -/
theorem cwd_fill (faults : ImportFaults) (dir : Bytes) (profile : Profile) (content : Text) :
    (fill j faults dir profile content fs).cwd = fs.cwd := by
  rw [fill, (FileSystem.cwd_write _ _ _ _).1, setPrivate]
  split_ifs
  · exact (fs.cwd_write _ _ _).1
  · exact (FileSystem.cwd_setMode _ _ _).1.trans (fs.cwd_write _ _ _).1

/-! ## Making and removing a directory -/

/-- The directory of a profile is made in the base directory. -/
theorem At.createDirAll (h : store.At fs b) {n : Name} (hfree : fs.tree.find? (b ++ [n]) = none) :
    ∃ t, fs.tree.insert? (b ++ [n]) .dir = some t ∧
      fs.createDirAll none (join store.baseDir n.bytes) = ({ fs with tree := t }, true) := by
  obtain ⟨hne, hnul, hwalk⟩ := fs.ne_nil_of_resolve h.1
  have hdir : ¬fs.tree.IsDir (b ++ [n]) := fun hdir => hdir.ne_none hfree
  obtain ⟨t, ht⟩ := Option.isSome_iff_exists.1
    ((fs.tree.insert?_isSome_iff (n := .dir)).2 ⟨hfree, by rw [List.dropLast_concat]; exact h.2⟩)
  have hstart : fs.start (join store.baseDir n.bytes) = fs.start store.baseDir := by
    rw [FileSystem.start, FileSystem.start]
    exact if_congr (isAbsolute_join (not_isAbsolute_name n) hne) rfl rfl
  have hguard : ¬(0 ∈ join store.baseDir n.bytes ∨
      ¬fs.tree.IsDir (fs.start (join store.baseDir n.bytes))) := by
    rw [mem_join (not_isAbsolute_name n) (by decide), hstart, not_or, not_or, not_not]
    exact ⟨⟨hnul, n.isName.2.2.2.2⟩, isDir_of_walk hwalk h.2⟩
  refine ⟨t, ht, ?_⟩
  rw [FileSystem.createDirAll, if_neg hguard, hstart, components_join (not_isAbsolute_name n),
    components_name]
  simp only [FileSystem.createDirs_append, FileSystem.createDirs_of_walk hwalk h.2, if_true,
    ← walk_eq_foldl hwalk, FileSystem.createDirs, step, if_neg hdir, ht]

/-- A name removes a directory in the base directory, if the base directory is found
    without what is in that one. -/
theorem At.removes (h : store.At fs b) {n : Name}
    (hhollow : store.At { fs with tree := fs.tree.hollow (b ++ [n]) } b) :
    fs.Removes (join store.baseDir n.bytes) (b ++ [n]) :=
  ⟨fs.resolve_join_name h.1 h.2 n,
    ⟨n, by rw [components_join (not_isAbsolute_name _), components_name, List.getLast?_concat]⟩,
    FileSystem.resolve_join_name _ hhollow.1 hhollow.2 n⟩

/-- The directory of a profile is removed with all that is in it, if the base directory
    is found without what is in it. -/
theorem At.find?_delete (h : store.At fs b) {id : Uuid}
    (hhollow : store.At { fs with tree := fs.tree.hollow (b ++ [id.name]) } b)
    (hdir : fs.tree.find? (b ++ [id.name]) = none ∨ fs.tree.IsDir (b ++ [id.name]))
    (k : List Name) :
    (store.delete id.text fs).tree.find? k =
      if b ++ [id.name] <+: k then none else fs.tree.find? k := by
  have hresolve := fs.resolve_join_name h.1 h.2 id.name
  rw [delete, show Utf8.encode id.text = id.name.bytes from rfl]
  rcases hdir with hnone | hdir
  · have hkeep : fs.removeDirAll (join store.baseDir id.name.bytes) = fs := by
      rw [FileSystem.removeDirAll, hresolve]
      exact if_neg fun hdir => hdir.ne_none hnone
    rw [hkeep]
    split_ifs with hpre
    · -- Nothing is below it.
      exact fs.tree.find?_eq_none_of_prefix hnone hpre
    · rfl
  · exact (h.removes hhollow).find?_removeDirAll hdir k

end ProfileStore

end OpenLawsVpn
