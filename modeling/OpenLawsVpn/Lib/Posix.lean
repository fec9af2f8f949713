import Mathlib.Data.List.DropRight
import OpenLawsVpn.Lib.FileTree

/-!
# A file system

The text of a path is cut at its slashes into components (`components`): names,
and the two dots. A path leads from the root, or from the working directory, along
its components, through directories (`resolve`). There are no links, so a path can
only lead to one location, which is known from its text.

The operations are those of a standard library on such a system. A path joined to
another one goes on from there unless it starts at the root (`resolve_join`).

* `resolve_unique`, `resolve_congr`, `resolve_mono`: where a path leads depends on the directories
  only;
* `find?_write`, `find?_createDirAll`, `find?_removeDirAll_iff`: what is found after writing a
  file, making directories, and removing one;
* `cwd_createDirAll`, `cwd_removeDirAll`: what the operations leave as it is;
* `walk_createDirs`: if all directories are made, the path leads to the last one.

Each operation has a fault as a parameter, so that a statement about it covers those that fail on
the way.
-/

namespace Posix

/-! ## Paths -/

/-- A text that an entry of a directory can have for a name. -/
def IsName (s : List UInt8) : Prop := s ≠ [] ∧ s ≠ [46] ∧ s ≠ [46, 46] ∧ 47 ∉ s ∧ 0 ∉ s

instance (s : List UInt8) : Decidable (IsName s) := inferInstanceAs (Decidable (_ ∧ _ ∧ _ ∧ _ ∧ _))

/-- The name of a directory entry. -/
structure Name where
  bytes : List UInt8
  isName : IsName bytes
  deriving DecidableEq, Repr

/-- A component of a path. -/
inductive Component
  | curDir
  | parentDir
  | normal (n : Name)
  deriving DecidableEq, Repr

/-- What a text between two slashes stands for. -/
def component? (s : List UInt8) : Option Component :=
  if s = [46] then some .curDir
  else if s = [46, 46] then some .parentDir
  else if h : IsName s then some (.normal ⟨s, h⟩)
  else none

/-- The components of a path. Those that are empty do not count. -/
def components (path : List UInt8) : List Component := (path.splitOn 47).filterMap component?

/-- The path starts at the root. -/
def IsAbsolute (path : List UInt8) : Prop := path.head? = some 47

instance (path : List UInt8) : Decidable (IsAbsolute path) := inferInstanceAs (Decidable (_ = _))

/-- A path, going on from another one. -/
def join (base path : List UInt8) : List UInt8 :=
  if IsAbsolute path then path
  else if base = [] ∨ base.getLast? = some 47 then base ++ path
  else base ++ [47] ++ path

theorem component?_name (n : Name) : component? n.bytes = some (.normal n) := by
  obtain ⟨s, hs⟩ := n
  rw [component?, if_neg hs.2.1, if_neg hs.2.2.1, dif_pos hs]

theorem components_name (n : Name) : components n.bytes = [.normal n] := by
  rw [components, List.splitOn_eq_singleton n.isName.2.2.2.1, List.filterMap_cons_some
    (component?_name n), List.filterMap_nil]

theorem not_isAbsolute_name (n : Name) : ¬IsAbsolute n.bytes := fun h =>
  n.isName.2.2.2.1 (List.mem_of_head? h)

theorem components_append_slash (a b : List UInt8) :
    components (a ++ 47 :: b) = components a ++ components b := by
  rw [components, List.splitOn_append_cons_self, List.filterMap_append, components, components]

/-- The components of a relative path come after those of its base. -/
theorem components_join {path : List UInt8} (h : ¬IsAbsolute path) (base : List UInt8) :
    components (join base path) = components base ++ components path := by
  rw [join, if_neg h]
  split_ifs with hbase
  · rcases hbase with rfl | hlast
    · rfl
    · obtain ⟨a, rfl⟩ := List.getLast?_eq_some_iff.1 hlast
      rw [List.append_assoc, List.singleton_append, components_append_slash, components_append_slash]
      simp [components, component?, IsName]
  · rw [List.append_assoc, List.singleton_append, components_append_slash]

/-- A joined path has the bytes of both parts. -/
theorem mem_join {path base : List UInt8} (h : ¬IsAbsolute path) {b : UInt8} (hb : b ≠ 47) :
    b ∈ join base path ↔ b ∈ base ∨ b ∈ path := by
  rw [join, if_neg h]
  split_ifs <;> simp [hb]

theorem join_ne_nil {base : List UInt8} (hbase : base ≠ []) (path : List UInt8) :
    join base path ≠ [] := by
  rw [join]
  split_ifs with habs
  · rintro rfl
    cases habs
  all_goals simp [hbase]

/-- A relative path under an absolute one is absolute. -/
theorem isAbsolute_join {path base : List UInt8} (h : ¬IsAbsolute path) (hbase : base ≠ []) :
    IsAbsolute (join base path) ↔ IsAbsolute base := by
  rw [join, if_neg h, IsAbsolute, IsAbsolute]
  split_ifs
  · rw [List.head?_append_of_ne_nil _ hbase]
  · rw [List.append_assoc, List.head?_append_of_ne_nil _ hbase]

/-! ## Walking -/

/-- A file: what it holds, and its mode. -/
structure File where
  content : List UInt8
  mode : ℕ
  deriving DecidableEq, Repr

/-- A file system, with the working directory and the mode of new files. -/
structure FileSystem where
  tree : FileTree Name File
  cwd : List Name := []
  newMode : ℕ := 0o644

/-- The location after a component. -/
def step (l : List Name) : Component → List Name
  | .curDir => l
  | .parentDir => l.dropLast
  | .normal n => l ++ [n]

/-- The way along the components, through directories. -/
def walk (t : FileTree Name File) : List Name → List Component → Option (List Name)
  | l, [] => some l
  | l, c :: cs => if t.IsDir l then walk t (step l c) cs else none

/-- Names on the way are those of the start, and of the components. -/
theorem mem_foldl_step {n : Name} {cs : List Component} {l : List Name} (h : n ∈ cs.foldl step l) :
    n ∈ l ∨ .normal n ∈ cs := by
  induction cs generalizing l with
  | nil => exact .inl h
  | cons c cs ih =>
    rcases ih h with h | h
    · cases c with
      | curDir => exact .inl h
      | parentDir => exact .inl (List.dropLast_subset _ h)
      | normal m =>
        rcases List.mem_append.1 h with h | h
        · exact .inl h
        · exact .inr (List.mem_cons.2 (.inl (congrArg _ (List.mem_singleton.1 h))))
    · exact .inr (List.mem_cons_of_mem _ h)

section Walk

variable {t t' : FileTree Name File} {l l' : List Name} {cs cs' : List Component}

/-- A walk that succeeds ends where its components lead. -/
theorem walk_eq_foldl (h : walk t l cs = some l') : l' = cs.foldl step l := by
  induction cs generalizing l with
  | nil => exact (Option.some.inj h).symm
  | cons c cs ih =>
    rw [walk] at h
    split_ifs at h
    exact ih h

/-- A walk goes on from where its first part ends. -/
theorem walk_append : walk t l (cs ++ cs') = (walk t l cs).bind fun l' => walk t l' cs' := by
  induction cs generalizing l with
  | nil => rfl
  | cons c cs ih =>
    rw [List.cons_append, walk, walk]
    split_ifs
    · exact ih
    · rfl

/-- A walk goes through the same directories as long as they are there. -/
theorem walk_mono (hdir : ∀ k, t.IsDir k → t'.IsDir k) (h : walk t l cs = some l') :
    walk t' l cs = some l' := by
  induction cs generalizing l with
  | nil => exact h
  | cons c cs ih =>
    rw [walk] at h ⊢
    split_ifs at h with hl
    rw [if_pos (hdir l hl)]
    exact ih h

/-- A walk to a directory starts in a directory. -/
theorem isDir_of_walk (h : walk t l cs = some l') (hdir : t.IsDir l') : t.IsDir l := by
  cases cs with
  | nil => rwa [show l = l' from Option.some.inj h]
  | cons c cs =>
    rw [walk] at h
    split_ifs at h with hl
    exact hl

/-- A walk ends in a directory exactly if all that it goes through are directories. -/
theorem walk_isDir_iff : walk t l cs = some l' ∧ t.IsDir l' ↔
    cs.foldl step l = l' ∧ ∀ pre, pre <+: cs → t.IsDir (pre.foldl step l) := by
  constructor
  · rintro ⟨h, hdir⟩
    refine ⟨(walk_eq_foldl h).symm, ?_⟩
    rintro pre ⟨suf, rfl⟩
    rw [walk_append] at h
    obtain ⟨k, hk, h⟩ := Option.bind_eq_some_iff.1 h
    rw [← walk_eq_foldl hk]
    exact isDir_of_walk h hdir
  · rintro ⟨rfl, h⟩
    refine ⟨?_, h cs List.prefix_rfl⟩
    induction cs generalizing l with
    | nil => rfl
    | cons c cs ih =>
      have hl : t.IsDir l := h [] List.nil_prefix
      rw [walk, if_pos hl]
      exact ih fun pre hpre => h (c :: pre) (List.cons_prefix_cons.2 ⟨rfl, hpre⟩)

/-- A walk of one component stays in its directory. -/
theorem walk_name (n : Name) : walk t l [.normal n] = if t.IsDir l then some (l ++ [n]) else none :=
  rfl

end Walk

namespace FileSystem

variable (fs : FileSystem)

/-- Where a path starts. -/
def start (path : List UInt8) : List Name := if IsAbsolute path then [] else fs.cwd

/-- The location that a path leads to, which need not be there. A NUL is in no path. -/
def resolve (path : List UInt8) : Option (List Name) :=
  if path = [] ∨ 0 ∈ path then none else walk fs.tree (fs.start path) (components path)

/-- What is found at the end of a path. -/
def stat (path : List UInt8) : Option (FileTree.Node File) := (fs.resolve path).bind fs.tree.find?

/-- `Path::exists`. -/
def exists? (path : List UInt8) : Bool := (fs.stat path).isSome

/-- The content of a file. -/
def read (path : List UInt8) : Option (List UInt8) :=
  match fs.stat path with
  | some (.file f) => some f.content
  | _ => none

/-- The names in a directory. -/
def readDir (path : List UInt8) : Option (List Name) :=
  match fs.resolve path with
  | some l => if fs.tree.IsDir l then some (fs.tree.children l) else none
  | none => none

/-- A joined path is resolved from its base. -/
theorem resolve_join {base path : List UInt8} (hbase : base ≠ []) (habs : ¬IsAbsolute path)
    (hnul : 0 ∉ path) :
    fs.resolve (join base path) =
      (fs.resolve base).bind fun l => walk fs.tree l (components path) := by
  have hstart : fs.start (join base path) = fs.start base := by
    rw [start, start]
    exact if_congr (isAbsolute_join habs hbase) rfl rfl
  have hvalid : (join base path = [] ∨ 0 ∈ join base path) ↔ (base = [] ∨ 0 ∈ base) := by
    rw [or_iff_right (join_ne_nil hbase path), or_iff_right hbase, mem_join habs (by decide),
      or_iff_left hnul]
  rw [resolve, resolve, if_congr hvalid rfl rfl]
  split_ifs
  · rfl
  · rw [components_join habs, hstart, walk_append]

/-- A path that is resolved is not empty, has no NUL, and is walked to its end. -/
theorem ne_nil_of_resolve {path : List UInt8} {l : List Name} (h : fs.resolve path = some l) :
    path ≠ [] ∧ 0 ∉ path ∧ walk fs.tree (fs.start path) (components path) = some l := by
  rw [resolve] at h
  split_ifs at h with hpath
  rw [not_or] at hpath
  exact ⟨hpath.1, hpath.2, h⟩

/-- A path leads to the same location in all systems with the same working directory. -/
theorem resolve_unique {fs' : FileSystem} {path : List UInt8} {l l' : List Name}
    (h : fs.resolve path = some l) (h' : fs'.resolve path = some l') (hcwd : fs'.cwd = fs.cwd) :
    l' = l := by
  rw [walk_eq_foldl (fs.ne_nil_of_resolve h).2.2, walk_eq_foldl (fs'.ne_nil_of_resolve h').2.2,
    start, start, hcwd]

theorem resolve_join_name {base : List UInt8} {l : List Name} (h : fs.resolve base = some l)
    (hdir : fs.tree.IsDir l) (n : Name) : fs.resolve (join base n.bytes) = some (l ++ [n]) := by
  rw [fs.resolve_join (fs.ne_nil_of_resolve h).1 (not_isAbsolute_name n) n.isName.2.2.2.2, h,
    Option.bind_some, components_name, walk_name, if_pos hdir]

/-- The location is on the way along the path, or where it leads to. -/
def Passes (path : List UInt8) (k : List Name) : Prop :=
  ∃ pre, pre <+: components path ∧ pre.foldl step (fs.start path) = k

/-- A path leads to a directory still exactly if all on the way are directories still. -/
theorem resolve_isDir_iff {fs' : FileSystem} {path : List UInt8} {l : List Name}
    (h : fs.resolve path = some l) (hcwd : fs'.cwd = fs.cwd) :
    fs'.resolve path = some l ∧ fs'.tree.IsDir l ↔ ∀ k, fs.Passes path k → fs'.tree.IsDir k := by
  obtain ⟨hne, hnul, hwalk⟩ := fs.ne_nil_of_resolve h
  have hstart : fs'.start path = fs.start path := by rw [start, start, hcwd]
  rw [resolve, if_neg (not_or.2 ⟨hne, hnul⟩), hstart, walk_isDir_iff,
    and_iff_right (walk_eq_foldl hwalk).symm]
  constructor
  · rintro hall k ⟨pre, hpre, rfl⟩
    exact hall pre hpre
  · exact fun hall pre hpre => hall _ ⟨pre, hpre, rfl⟩

/-! ## Changing files -/

/-- How writing a file fails: it is not opened, or cut off after some bytes. -/
inductive WriteFault
  | notOpened
  | cutAfter (n : ℕ)
  deriving DecidableEq, Repr

/-- What gets into the file, if it is opened. -/
def written (fault : Option WriteFault) (content : List UInt8) : Option (List UInt8) :=
  match fault with
  | none => some content
  | some .notOpened => none
  | some (.cutAfter n) => some (content.take n)

/-- The file at the end of a path has this content, from now on. -/
def put (path content : List UInt8) : FileSystem :=
  match fs.resolve path with
  | none => fs
  | some l =>
    match fs.tree.find? l with
    | some .dir => fs
    | some (.file _) => { fs with tree := fs.tree.replace l fun f => { f with content := content } }
    | none =>
      match fs.tree.insert? l (.file ⟨content, fs.newMode⟩) with
      | some t => { fs with tree := t }
      | none => fs

/-- Writing a file, which may fail. -/
def write (fault : Option WriteFault) (path content : List UInt8) : FileSystem :=
  match written fault content with
  | some content => fs.put path content
  | none => fs

/-- The file at the end of a path has this mode, from now on. -/
def setMode (path : List UInt8) (mode : ℕ) : FileSystem :=
  match fs.resolve path with
  | none => fs
  | some l => { fs with tree := fs.tree.replace l fun f => { f with mode := mode } }

/-! ## Changing directories -/

/-- The directories on the way along the components, made where they are missing:
    the tree, and whether the end was reached. -/
def createDirs (t : FileTree Name File) : List Name → List Component → FileTree Name File × Bool
  | _, [] => (t, true)
  | l, c :: cs =>
    if t.IsDir (step l c) then createDirs t (step l c) cs
    else
      match t.insert? (step l c) .dir with
      | some t' => createDirs t' (step l c) cs
      | none => (t, false)

/-- The directory, with all on the way to it, and whether it was made. A failure may
    come after some of them, but leaves the last one out. -/
def createDirAll (fault : Option ℕ) (path : List UInt8) : FileSystem × Bool :=
  if 0 ∈ path ∨ ¬fs.tree.IsDir (fs.start path) then (fs, false)
  else
    match fault with
    | none =>
      let r := createDirs fs.tree (fs.start path) (components path)
      ({ fs with tree := r.1 }, r.2)
    | some n =>
      let r := createDirs fs.tree (fs.start path) ((components path).dropLast.take n)
      ({ fs with tree := r.1 }, false)

/-- The end of the path is named: neither a dot nor the root. -/
def EndsWithName (path : List UInt8) : Prop := ∃ n, (components path).getLast? = some (.normal n)

instance (path : List UInt8) : Decidable (EndsWithName path) :=
  match h : (components path).getLast? with
  | some (.normal n) => isTrue ⟨n, h⟩
  | some .curDir => isFalse (by rw [EndsWithName, h]; simp)
  | some .parentDir => isFalse (by rw [EndsWithName, h]; simp)
  | none => isFalse (by rw [EndsWithName, h]; simp)

/-- An empty directory is removed. -/
def removeDir (path : List UInt8) : FileSystem :=
  match fs.resolve path with
  | none => fs
  | some l =>
    if fs.tree.IsDir l ∧ fs.tree.children l = [] ∧ EndsWithName path then
      { fs with tree := fs.tree.erase l }
    else fs

/-- A directory is removed: first what is in it, then itself, by the same path. -/
def removeDirAll (path : List UInt8) : FileSystem :=
  match fs.resolve path with
  | none => fs
  | some l =>
    if fs.tree.IsDir l then { fs with tree := fs.tree.hollow l }.removeDir path else fs

/-! ## What changes -/

/-- Paths lead to the same locations as long as the directories are the same. -/
theorem resolve_congr {fs fs' : FileSystem} (hdir : ∀ k, fs'.tree.IsDir k ↔ fs.tree.IsDir k)
    (hcwd : fs'.cwd = fs.cwd) (path : List UInt8) : fs'.resolve path = fs.resolve path := by
  have hwalk : ∀ l cs, walk fs'.tree l cs = walk fs.tree l cs := by
    intro l cs
    induction cs generalizing l with
    | nil => rfl
    | cons c cs ih =>
      rw [walk, walk, if_congr (hdir l) (ih (step l c)) rfl]
  rw [resolve, resolve, hwalk, start, start, hcwd]

/-- A path leads where it did as long as the directories are there. -/
theorem resolve_mono {fs fs' : FileSystem} (hdir : ∀ k, fs.tree.IsDir k → fs'.tree.IsDir k)
    (hcwd : fs'.cwd = fs.cwd) {path : List UInt8} {l : List Name} (h : fs.resolve path = some l) :
    fs'.resolve path = some l := by
  obtain ⟨hne, hnul, hwalk⟩ := fs.ne_nil_of_resolve h
  rw [resolve, if_neg (not_or.2 ⟨hne, hnul⟩), start, hcwd]
  exact walk_mono hdir hwalk

/-- To put a file changes neither the directory nor the mode of new files. -/
theorem cwd_put (path content : List UInt8) :
    (fs.put path content).cwd = fs.cwd ∧ (fs.put path content).newMode = fs.newMode := by
  rw [put]
  split
  · exact ⟨rfl, rfl⟩
  split
  · exact ⟨rfl, rfl⟩
  · exact ⟨rfl, rfl⟩
  split <;> exact ⟨rfl, rfl⟩

theorem cwd_write (fault : Option WriteFault) (path content : List UInt8) :
    (fs.write fault path content).cwd = fs.cwd ∧
      (fs.write fault path content).newMode = fs.newMode := by
  rw [write]
  split
  · exact fs.cwd_put _ _
  · exact ⟨rfl, rfl⟩

/-- What is written is the beginning of the content. -/
theorem prefix_of_written {fault : Option WriteFault} {content c : List UInt8}
    (h : written fault content = some c) : c <+: content := by
  rw [written.eq_def] at h
  split at h
  · rw [Option.some.inj h]
  · cases h
  · rw [← Option.some.inj h]
    exact List.take_prefix _ _

/-- A path that leads nowhere changes nothing. -/
theorem write_of_resolve_eq_none {path : List UInt8} (h : fs.resolve path = none)
    (fault : Option WriteFault) (content : List UInt8) : fs.write fault path content = fs := by
  rw [write]
  split
  · rw [put, h]
  · rfl

/-- A path that is not resolved gets no mode. -/
theorem setMode_of_resolve_eq_none {path : List UInt8} (h : fs.resolve path = none) (mode : ℕ) :
    fs.setMode path mode = fs := by
  rw [setMode, h]

/-- Nothing is in a directory whose name is nowhere. -/
theorem resolve_join_join_eq_none {path : List UInt8} (hpath : path ≠ []) {n : Name}
    (hnowhere : ∀ k, n ∈ k → fs.tree.find? k = none) (m : Name) :
    fs.resolve (join (join path n.bytes) m.bytes) = none := by
  rw [fs.resolve_join (join_ne_nil hpath _) (not_isAbsolute_name m) m.isName.2.2.2.2,
    fs.resolve_join hpath (not_isAbsolute_name n) n.isName.2.2.2.2, components_name, components_name]
  rw [Option.bind_eq_none_iff]
  intro l hl
  obtain ⟨l', -, hname⟩ := Option.bind_eq_some_iff.1 hl
  rw [walk_name] at hname ⊢
  split_ifs at hname
  obtain rfl := Option.some.inj hname
  exact if_neg fun hdir =>
    hdir.ne_none (hnowhere _ (List.mem_append_right _ List.mem_cons_self))

/-- Writing a file that was not there. -/
theorem find?_write {path : List UInt8} {l : List Name} (hl : fs.resolve path = some l)
    (hnone : fs.tree.find? l = none) (hdir : fs.tree.IsDir l.dropLast) (fault : Option WriteFault)
    (content : List UInt8) (k : List Name) :
    (fs.write fault path content).tree.find? k =
      if k = l then (written fault content).map fun c => .file ⟨c, fs.newMode⟩
      else fs.tree.find? k := by
  rw [write]
  cases written fault content with
  | none =>
    split_ifs with hk
    · rw [hk, hnone, Option.map_none]
    · rfl
  | some c =>
    obtain ⟨t, ht⟩ := Option.isSome_iff_exists.1
      ((fs.tree.insert?_isSome_iff (n := .file ⟨c, fs.newMode⟩)).2 ⟨hnone, hdir⟩)
    have hput : fs.put path c = { fs with tree := t } := by
      simp only [put, hl, hnone, ht]
    dsimp only
    rw [hput, FileTree.find?_insert ht, Option.map_some]

/-- No directory is made, and none is lost. -/
theorem isDir_write {path : List UInt8} {l : List Name} (hl : fs.resolve path = some l)
    (hnone : fs.tree.find? l = none) (hdir : fs.tree.IsDir l.dropLast) (fault : Option WriteFault)
    (content : List UInt8) (k : List Name) :
    (fs.write fault path content).tree.IsDir k ↔ fs.tree.IsDir k := by
  rw [FileTree.IsDir, FileTree.IsDir, fs.find?_write hl hnone hdir]
  split_ifs with hk
  · rw [hk, hnone]
    cases written fault content <;> simp
  · rfl

/-- To set a mode changes neither the directory nor the mode of new files. -/
theorem cwd_setMode (path : List UInt8) (mode : ℕ) :
    (fs.setMode path mode).cwd = fs.cwd ∧ (fs.setMode path mode).newMode = fs.newMode := by
  rw [setMode]
  split <;> exact ⟨rfl, rfl⟩

theorem find?_setMode {path : List UInt8} {l : List Name} (hl : fs.resolve path = some l)
    (mode : ℕ) (k : List Name) :
    (fs.setMode path mode).tree.find? k =
      if k = l then (fs.tree.find? k).map (.map fun f => { f with mode := mode })
      else fs.tree.find? k := by
  rw [setMode, hl]
  exact fs.tree.find?_replace _ _ _

/-! ### Making directories -/

/-- To create directories is to create the first ones, and then the rest, unless that fails. -/
theorem createDirs_append {t : FileTree Name File} {l : List Name} (cs cs' : List Component) :
    createDirs t l (cs ++ cs') =
      if (createDirs t l cs).2 then createDirs (createDirs t l cs).1 (cs.foldl step l) cs'
      else createDirs t l cs := by
  induction cs generalizing t l with
  | nil => rw [List.nil_append, createDirs, if_pos rfl, List.foldl_nil]
  | cons c cs ih =>
    rw [List.cons_append, createDirs, createDirs, List.foldl_cons]
    split_ifs with hdir hr hr
    · rw [ih, if_pos hr]
    · rw [ih, if_neg hr]
    all_goals
      cases hinsert : t.insert? (step l c) .dir with
      | none => simp [hinsert] at hr ⊢
      | some t' =>
        simp only [hinsert] at hr ⊢
        rw [ih]
        simp [hr]

/-- What is made are directories on the way, where there was nothing. -/
theorem find?_createDirs {t : FileTree Name File} {l : List Name} (cs : List Component)
    (k : List Name) :
    (createDirs t l cs).1.find? k = t.find? k ∨
      t.find? k = none ∧ (createDirs t l cs).1.find? k = some .dir ∧
        ∃ pre, pre <+: cs ∧ pre ≠ [] ∧ k = pre.foldl step l := by
  induction cs generalizing t l with
  | nil => exact .inl rfl
  | cons c cs ih =>
    have hgo : ∀ t', (createDirs t' (step l c) cs).1.find? k = t'.find? k ∨
        t'.find? k = none ∧ (createDirs t' (step l c) cs).1.find? k = some .dir ∧
          ∃ pre, pre <+: c :: cs ∧ pre ≠ [] ∧ k = pre.foldl step l := by
      intro t'
      refine (ih (t := t') (l := step l c)).imp_right ?_
      rintro ⟨hnone, hsome, pre, hpre, -, rfl⟩
      exact ⟨hnone, hsome, c :: pre, List.cons_prefix_cons.2 ⟨rfl, hpre⟩, List.cons_ne_nil _ _, rfl⟩
    rw [createDirs]
    split_ifs with hdir
    · exact hgo t
    cases hinsert : t.insert? (step l c) .dir with
    | none => exact .inl rfl
    | some t' =>
      have hfind := FileTree.find?_insert hinsert k
      have hfree := t.insert?_isSome_iff.1 (Option.isSome_iff_exists.2 ⟨t', hinsert⟩)
      dsimp only
      by_cases hk : k = step l c
      · -- The directory inserted here is left alone afterwards.
        subst hk
        rw [if_pos rfl] at hfind
        refine .inr ⟨hfree.1, ?_, [c], List.cons_prefix_cons.2 ⟨rfl, List.nil_prefix⟩,
          List.cons_ne_nil _ _, rfl⟩
        rcases hgo t' with h | ⟨h, -⟩
        · rw [h, hfind]
        · rw [hfind] at h
          cases h
      · rw [if_neg hk] at hfind
        rw [← hfind]
        exact hgo t'

/-- A directory stays one. -/
theorem isDir_createDirs {t : FileTree Name File} {l : List Name} (cs : List Component)
    {k : List Name} (h : t.IsDir k) : (createDirs t l cs).1.IsDir k := by
  rcases find?_createDirs (t := t) (l := l) cs k with heq | ⟨hnone, -⟩
  · rwa [FileTree.IsDir, heq]
  · exact absurd hnone (FileTree.IsDir.ne_none h)

/-- A name that is nowhere is not made, unless it is on the way. -/
theorem find?_createDirs_eq_none {t : FileTree Name File} {l : List Name} {cs : List Component}
    {n : Name} (hnowhere : ∀ k, n ∈ k → t.find? k = none) (hl : n ∉ l) (hcs : .normal n ∉ cs)
    (k : List Name) (hk : n ∈ k) : (createDirs t l cs).1.find? k = none := by
  rcases find?_createDirs (t := t) (l := l) cs k with heq | ⟨-, -, pre, hpre, -, rfl⟩
  · rw [heq, hnowhere k hk]
  · rcases mem_foldl_step hk with h | h
    · exact absurd h hl
    · exact absurd (hpre.subset h) hcs

/-- To create directories makes no file, and loses none. -/
theorem find?_createDirs_eq_file_iff {t : FileTree Name File} {l : List Name}
    (cs : List Component) (k : List Name) (f : File) :
    (createDirs t l cs).1.find? k = some (.file f) ↔ t.find? k = some (.file f) := by
  rcases find?_createDirs (t := t) (l := l) cs k with heq | ⟨hnone, hsome, -⟩
  · rw [heq]
  · rw [hnone, hsome]
    simp

/-- If the end was reached, the components lead there. -/
theorem walk_createDirs {t : FileTree Name File} {l : List Name} {cs : List Component}
    (hl : t.IsDir l) (h : (createDirs t l cs).2 = true) :
    walk (createDirs t l cs).1 l cs = some (cs.foldl step l) ∧
      (createDirs t l cs).1.IsDir (cs.foldl step l) := by
  induction cs generalizing t l with
  | nil => exact ⟨rfl, hl⟩
  | cons c cs ih =>
    -- Whether the directory was there or was made, the rest is walked from it.
    have hgo : ∀ t', t'.IsDir l → t'.IsDir (step l c) → (createDirs t' (step l c) cs).2 = true →
        walk (createDirs t' (step l c) cs).1 l (c :: cs) = some ((c :: cs).foldl step l) ∧
          (createDirs t' (step l c) cs).1.IsDir ((c :: cs).foldl step l) := by
      intro t' hl' hdir hr
      obtain ⟨hwalk, hend⟩ := ih hdir hr
      rw [walk, if_pos (isDir_createDirs cs hl'), hwalk, List.foldl_cons]
      exact ⟨rfl, hend⟩
    rw [createDirs] at h ⊢
    split_ifs at h ⊢ with hdir
    · exact hgo t hl hdir h
    cases hinsert : t.insert? (step l c) .dir with
    | none =>
      rw [hinsert] at h
      cases h
    | some t' =>
      rw [hinsert] at h
      have hfind := FileTree.find?_insert hinsert
      have hfree := t.insert?_isSome_iff.1 (Option.isSome_iff_exists.2 ⟨t', hinsert⟩)
      refine hgo t' ?_ ?_ h
      · rw [FileTree.IsDir, hfind, if_neg, hl]
        intro heq
        rw [← heq] at hdir
        exact hdir hl
      · rw [FileTree.IsDir, hfind, if_pos rfl]

/-- Where every directory is there, none is made. -/
theorem createDirs_of_walk {t : FileTree Name File} {l l' : List Name} {cs : List Component}
    (h : walk t l cs = some l') (hdir : t.IsDir l') : createDirs t l cs = (t, true) := by
  induction cs generalizing l with
  | nil => rfl
  | cons c cs ih =>
    rw [walk] at h
    split_ifs at h
    rw [createDirs, if_pos (isDir_of_walk h hdir), ih h]

/-! ### Removing directories -/

/-- What is there stays when directories are made. -/
theorem find?_createDirAll (fault : Option ℕ) (path : List UInt8) {k : List Name}
    (hk : fs.tree.find? k ≠ none) :
    (fs.createDirAll fault path).1.tree.find? k = fs.tree.find? k := by
  have hmake : ∀ l cs, (createDirs fs.tree l cs).1.find? k = fs.tree.find? k := fun l cs =>
    (find?_createDirs cs k).resolve_right fun h => hk h.1
  rw [createDirAll.eq_def]
  split_ifs
  · rfl
  · cases fault with
    | none => exact hmake _ _
    | some n => exact hmake _ _

/-- To create directories does not change the current one. -/
theorem cwd_createDirAll (fault : Option ℕ) (path : List UInt8) :
    (fs.createDirAll fault path).1.cwd = fs.cwd := by
  rw [createDirAll.eq_def]
  split_ifs
  · rfl
  · cases fault <;> rfl

/-- A path that ends with a name does not lead to the root. -/
theorem ne_nil_of_endsWithName {path : List UInt8} (h : EndsWithName path) (l : List Name) :
    (components path).foldl step l ≠ [] := by
  obtain ⟨n, hn⟩ := h
  obtain ⟨cs, hcs⟩ := List.getLast?_eq_some_iff.1 hn
  rw [hcs, List.foldl_concat, step]
  exact List.concat_ne_nil _ _

/-- What is left of a directory that is removed: nothing, if its path ends with a name
    and leads there still when it is empty, and else the directory itself. -/
theorem find?_removeDirAll {path : List UInt8} {l : List Name} (hl : fs.resolve path = some l)
    (hdir : fs.tree.IsDir l) (k : List Name) :
    (fs.removeDirAll path).tree.find? k =
      if l <+: k ∧ (l ≠ k ∨ EndsWithName path ∧
        { fs with tree := fs.tree.hollow l }.resolve path = some l) then none
      else fs.tree.find? k := by
  have hfoldl : l = (components path).foldl step (fs.start path) :=
    walk_eq_foldl (fs.ne_nil_of_resolve hl).2.2
  have hkept : (fs.tree.hollow l).find? k = if l <+: k ∧ l ≠ k then none else fs.tree.find? k :=
    fs.tree.find?_hollow l k
  rw [removeDirAll, hl]
  dsimp only
  rw [if_pos hdir, removeDir]
  cases hresolve : { fs with tree := fs.tree.hollow l }.resolve path with
  | none => simpa using hkept
  | some l' =>
    obtain rfl : l' = l :=
      (walk_eq_foldl (ne_nil_of_resolve _ hresolve).2.2).trans hfoldl.symm
    -- The directory is there still, and empty.
    have hdir' : (fs.tree.hollow l').IsDir l' := by
      rw [FileTree.IsDir, FileTree.find?_hollow, if_neg fun h => h.2 rfl]
      exact hdir
    have hempty : (fs.tree.hollow l').children l' = [] := by
      rw [List.eq_nil_iff_forall_not_mem]
      intro n
      rw [FileTree.mem_children, FileTree.find?_hollow, if_pos ⟨List.prefix_append _ _, by simp⟩]
      exact fun h => h rfl
    dsimp only
    by_cases hname : EndsWithName path
    · have hne : l' ≠ [] := hfoldl ▸ ne_nil_of_endsWithName hname _
      rw [if_pos ⟨hdir', hempty, hname⟩, FileTree.find?_erase _ hne, hkept]
      by_cases hpre : l' <+: k
      · rw [if_pos hpre, if_pos ⟨hpre, .inr ⟨hname, rfl⟩⟩]
      · rw [if_neg hpre, if_neg fun h => hpre h.1, if_neg fun h => hpre h.1]
    · rw [if_neg fun h => hname h.2.2, hkept]
      simp [hname]

/-- The path leads to the location, and does so still when all below it is gone; and
    what it ends with is a name. -/
def Removes (path : List UInt8) (l : List Name) : Prop :=
  fs.resolve path = some l ∧ EndsWithName path ∧
    { fs with tree := fs.tree.hollow l }.resolve path = some l

/-- The path leads to the location, but does not remove it. -/
def Hollows (path : List UInt8) (l : List Name) : Prop :=
  fs.resolve path = some l ∧
    ¬(EndsWithName path ∧ { fs with tree := fs.tree.hollow l }.resolve path = some l)

/-- To remove a directory removes it, or only what is in it. -/
theorem removes_or_hollows {path : List UInt8} {l : List Name} (hl : fs.resolve path = some l) :
    fs.Removes path l ∨ fs.Hollows path l := by
  rw [Removes, Hollows, ← and_or_left]
  exact ⟨hl, em _⟩

variable {fs} in
/-- When it is removed, nothing is found from there on. -/
theorem Removes.find?_removeDirAll {path : List UInt8} {l : List Name} (h : fs.Removes path l)
    (hdir : fs.tree.IsDir l) (k : List Name) :
    (fs.removeDirAll path).tree.find? k = if l <+: k then none else fs.tree.find? k := by
  rw [fs.find?_removeDirAll h.1 hdir]
  exact if_congr (and_iff_left (.inr h.2)) rfl rfl

variable {fs} in
/-- When it is emptied, it is found still. -/
theorem Hollows.find?_removeDirAll {path : List UInt8} {l : List Name} (h : fs.Hollows path l)
    (hdir : fs.tree.IsDir l) (k : List Name) :
    (fs.removeDirAll path).tree.find? k = (fs.tree.hollow l).find? k := by
  rw [fs.find?_removeDirAll h.1 hdir, FileTree.find?_hollow]
  exact if_congr (and_congr_right fun _ => or_iff_left h.2) rfl rfl

/-- What is changed is at or below the directory that the path leads to. -/
theorem exists_prefix_of_removeDirAll {path : List UInt8} {k : List Name}
    (h : (fs.removeDirAll path).tree.find? k ≠ fs.tree.find? k) :
    ∃ l, fs.resolve path = some l ∧ fs.tree.IsDir l ∧ l <+: k := by
  cases hl : fs.resolve path with
  | none => exact absurd (by rw [removeDirAll, hl]) h
  | some l =>
    by_cases hdir : fs.tree.IsDir l
    · rw [fs.find?_removeDirAll hl hdir] at h
      split_ifs at h with hk
      · exact ⟨l, rfl, hdir, hk.1⟩
      · exact absurd rfl h
    · exact absurd (by rw [removeDirAll, hl]; simp only [if_neg hdir]) h

/-- A directory is what is removed, and nothing else, exactly if the path removes it, or
    hollows the directory that it is alone in. -/
theorem find?_removeDirAll_iff {path : List UInt8} {b : List Name} {n : Name}
    (hdir : fs.tree.IsDir (b ++ [n])) :
    (∀ k, (fs.removeDirAll path).tree.find? k =
        if b ++ [n] <+: k then none else fs.tree.find? k) ↔
      fs.Removes path (b ++ [n]) ∨ fs.Hollows path b ∧ fs.tree.children b = [n] := by
  have hn : fs.tree.find? (b ++ [n]) ≠ none := hdir.ne_none
  have hdirb : fs.tree.IsDir b := fs.tree.isDir_of_find?_concat hn
  have hnot : ¬b ++ [n] <+: b := fun hpre => absurd hpre.length_le (by simp)
  constructor
  · intro hall
    have hgone := hall (b ++ [n])
    rw [if_pos List.prefix_rfl] at hgone
    have hkept := hall b
    rw [if_neg hnot, hdirb] at hkept
    -- The path leads to the directory, or to one that it is in.
    obtain ⟨l, hl, hldir, hpre⟩ := fs.exists_prefix_of_removeDirAll (hgone ▸ hn.symm)
    rw [List.prefix_concat_iff] at hpre
    rcases fs.removes_or_hollows hl with hremoves | hhollows
    · rcases hpre with rfl | hpre
      · exact .inl hremoves
      · rw [hremoves.find?_removeDirAll hldir, if_pos hpre] at hkept
        cases hkept
    · have hfind := hhollows.find?_removeDirAll hldir
      obtain rfl : l = b := by
        rcases hpre with rfl | hpre
        · rw [hfind, FileTree.find?_hollow, if_neg fun h => h.2 rfl] at hgone
          exact absurd hgone hn
        · by_contra hne
          rw [hfind, FileTree.find?_hollow, if_pos ⟨hpre, hne⟩] at hkept
          cases hkept
      exact .inr ⟨hhollows, (fs.tree.children_eq_singleton_iff hn).2 fun k => hfind k ▸ hall k⟩
  · rintro (hremoves | ⟨hhollows, hchildren⟩) k
    · exact hremoves.find?_removeDirAll hdir k
    · rw [hhollows.find?_removeDirAll hdirb]
      exact (fs.tree.children_eq_singleton_iff hn).1 hchildren k

/-- The removal of the directory that the path leads to takes away what is at the
    location. -/
def Clears (path : List UInt8) (k : List Name) : Prop :=
  ∃ l, fs.resolve path = some l ∧ fs.tree.IsDir l ∧ l <+: k ∧ (l ≠ k ∨ fs.Removes path l)

variable {fs} in
theorem Clears.find?_removeDirAll {path : List UInt8} {k : List Name} (h : fs.Clears path k) :
    (fs.removeDirAll path).tree.find? k = none := by
  obtain ⟨l, hl, hdir, hpre, hgone⟩ := h
  rw [fs.find?_removeDirAll hl hdir, if_pos ⟨hpre, hgone.imp_right And.right⟩]

/-- All else is found as before. -/
theorem find?_removeDirAll_of_not_clears {path : List UInt8} {k : List Name}
    (h : ¬fs.Clears path k) : (fs.removeDirAll path).tree.find? k = fs.tree.find? k := by
  by_contra hne
  obtain ⟨l, hl, hdir, -⟩ := fs.exists_prefix_of_removeDirAll hne
  rw [fs.find?_removeDirAll hl hdir] at hne
  split_ifs at hne with hgone
  · exact h ⟨l, hl, hdir, hgone.1, hgone.2.imp_right fun hremoves => ⟨hl, hremoves⟩⟩
  · exact hne rfl

/-- To remove a directory is to trim. -/
theorem trims_removeDirAll (path : List UInt8) : fs.tree.Trims (fs.removeDirAll path).tree := by
  rw [removeDirAll]
  split
  · exact fs.tree.trims_refl
  split_ifs
  · have hhollow (l : List Name) : fs.tree.Trims (fs.tree.hollow l) := fs.tree.trims_restrict _ _
    rw [removeDir]
    split
    · exact hhollow _
    split_ifs
    · exact (hhollow _).trans (FileTree.trims_restrict _ _ _)
    · exact hhollow _
  · exact fs.tree.trims_refl

/-- A removal changes neither the current directory nor the mode of new files. -/
theorem cwd_removeDirAll (path : List UInt8) :
    (fs.removeDirAll path).cwd = fs.cwd ∧ (fs.removeDirAll path).newMode = fs.newMode := by
  rw [removeDirAll]
  split
  · exact ⟨rfl, rfl⟩
  split_ifs
  · rw [removeDir]
    split
    · exact ⟨rfl, rfl⟩
    split_ifs <;> exact ⟨rfl, rfl⟩
  · exact ⟨rfl, rfl⟩

end FileSystem

end Posix
