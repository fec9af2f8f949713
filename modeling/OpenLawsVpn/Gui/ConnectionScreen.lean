import OpenLawsVpn.Gui.ProfileDelete
import OpenLawsVpn.Gui.ProfileImport
import OpenLawsVpn.Gui.Screen
import OpenLawsVpn.Lib.Runs

/-!
# The rows of the screen

The screen has a row for each profile of the store, built with what the handlers of its
button and of its menu need: the id, whether the profile can be deleted, and the path of
its configuration. The rows are built again after an import and after a change of the
state, but not after a deletion.

So the rows are the profiles of the store, in every state of a run, exactly if no
deletion takes away a profile listed (`mirrors_iff`), as each one of a profile that was
imported does (`ProfileStore.Holds.not_spares`).

* `ProfileRow`: a row, with the proof that its path is that of its profile;
* `refreshList`, `setState`, `delete`: the handlers, of which `delete` builds no rows;
* `mirrors_iff`: the criterion, over runs of any length;
* `not_mirrors`: an import and a deletion, after which the row is left.
-/

namespace OpenLawsVpn

open Posix

/-! ## Rows -/

namespace ConnectionState

/-- `ConnectionState::status_text`, the subtitle of the active row. -/
def statusText : ConnectionState → Option Text
  | .idle => none
  | .connecting => some "Connecting…".toList
  | .waitingSaml => some "Waiting for SAML login…".toList
  | .connected .. => some "● Connected".toList
  | .disconnecting => some "Disconnecting…".toList
  | .needReauth reason =>
    if reason = [] then some "Session expired — tap Connect to re-authenticate".toList
    else some reason
  | .error message => some ("Error: ".toList ++ message)

/-- `ConnectionState::show_spinner`. -/
def showSpinner : ConnectionState → Bool
  | .connecting | .waitingSaml | .disconnecting => true
  | _ => false

/-- `ConnectionState::button_label`. -/
def buttonLabel : ConnectionState → Text
  | .connected .. | .disconnecting => "Disconnect".toList
  | _ => "Connect".toList

end ConnectionState

namespace ProfileStore

/-- The text is the path of the profile, or the empty one that stands for no path. -/
def IsPathOf (store : ProfileStore) (id path : Text) : Prop :=
  path = [] ∨
    path = toStringLossy (join (join store.baseDir (Utf8.encode id)) (lit "config.ovpn"))

/-- The path of a profile as a row has it. -/
def pathText (store : ProfileStore) (fs : FileSystem) (id : Text) : Text :=
  ((store.configPath fs id).map toStringLossy).getD []

/-- A row has the path of its profile. -/
theorem isPathOf_pathText (store : ProfileStore) (fs : FileSystem) (id : Text) :
    store.IsPathOf id (store.pathText fs id) := by
  rw [pathText, configPath]
  split_ifs
  · exact .inr rfl
  · exact .inl rfl

end ProfileStore

/-- The row of a profile. Its title is the name. -/
structure ProfileRow (store : ProfileStore) where
  profile : Profile
  subtitle : Option Text
  spinner : Bool
  label : Text
  sensitive : Bool
  configPath : Text
  isPath : store.IsPathOf profile.id configPath
  /-- The row has a menu. -/
  deletable : Bool

/-- The screen, with the file system that the store is in, the commands that it sent and
    the messages that it showed. -/
structure ConnectionScreen (store : ProfileStore) where
  fs : FileSystem
  rows : List (ProfileRow store) := []
  emptyLabel : Bool := true
  scrolled : Bool := false
  activeId : Option Text := none
  state : ConnectionState := .idle
  commands : List VpnCommand := []
  toasts : List Text := []

namespace ConnectionScreen

/-- What a user does, or an event: a file is chosen in the file picker, the button or
    the menu of a row is used, or the service sends a state. -/
inductive Action
  | openFile (faults : ImportFaults) (id : Uuid) (secs : ℕ) (fileName : Option Text)
    (read : Except Text Text)
  | click (k : ℕ) (outcome : ConnectOutcome)
  | delete (k : ℕ)
  | setState (state : ConnectionState)

variable {store : ProfileStore} (j : ProfileJson)

/-- `build_profile_row`: what the row of a profile shows and which of its controls can be used.
    Only the row of the active profile shows the state. -/
def buildProfileRow (profile : Profile) (anyBusy : Bool) (s : ConnectionScreen store) :
    ProfileRow store :=
  let isActive : Bool := s.activeId = some profile.id
  { profile
    subtitle := if isActive then s.state.statusText else none
    spinner := isActive && s.state.showSpinner
    label := if isActive then s.state.buttonLabel else "Connect".toList
    sensitive := OpenLawsVpn.buildProfileRow s.activeId s.state anyBusy profile.id
    configPath := store.pathText s.fs profile.id
    isPath := store.isPathOf_pathText s.fs profile.id
    deletable := !(isActive &&
      match s.state with
      | .connected .. | .connecting | .waitingSaml => true
      | _ => false) }

/-- `refresh_list`: the rows are built again from the profiles in the store, or the label for an
    empty list is shown in their place. -/
def refreshList (s : ConnectionScreen store) : ConnectionScreen store :=
  match store.list j s.fs with
  | [] => { s with rows := [], emptyLabel := true, scrolled := false }
  | p :: profiles =>
    { s with
      rows := (p :: profiles).map fun profile => s.buildProfileRow profile s.state.isBusy
      emptyLabel := false
      scrolled := true }

/-- `ConnectionScreen::new`. -/
def new (store : ProfileStore) (fs : FileSystem) : ConnectionScreen store :=
  refreshList j { fs }

/-- `ConnectionScreen::set_state`. -/
def setState (state : ConnectionState) (s : ConnectionScreen store) : ConnectionScreen store :=
  refreshList j { s with state }

/-- The handler of the button of a row. -/
def click (row : ProfileRow store) (outcome : ConnectOutcome) (s : ConnectionScreen store) :
    ConnectionScreen store :=
  if s.activeId = some row.profile.id ∧ s.state.isConnected then
    { s with commands := s.commands ++ [.disconnect], activeId := none }
  else
    { s with
      activeId := some row.profile.id
      commands := s.commands ++ [.connect row.configPath outcome] }

/-- The handler of the Delete button in the menu of a row. -/
def delete (row : ProfileRow store) (s : ConnectionScreen store) : ConnectionScreen store :=
  { s with
    fs := store.delete row.profile.id s.fs
    toasts := s.toasts ++ ["Profile '".toList ++ row.profile.name ++ "' deleted.".toList] }

/-- What `open_file_picker` does with the file chosen. -/
def openFilePicker (faults : ImportFaults) (id : Uuid) (secs : ℕ) (fileName : Option Text)
    (read : Except Text Text) (s : ConnectionScreen store) : ConnectionScreen store :=
  let r := store.openFilePicker j faults id secs fileName read s.fs
  let s := { s with fs := r.1, toasts := s.toasts ++ [r.2] }
  match read with
  | .ok _ => refreshList j s
  | .error _ => s

/-- The button of a row can be used if it is sensitive, and the menu if there is one. -/
def step (s : ConnectionScreen store) : Action → Option (ConnectionScreen store)
  | .openFile faults id secs fileName read =>
    some (s.openFilePicker j faults id secs fileName read)
  | .click k outcome => s.rows[k]?.bind fun row =>
    if row.sensitive then some (s.click row outcome) else none
  | .delete k => s.rows[k]?.bind fun row =>
    if row.deletable then some (s.delete row) else none
  | .setState state => some (s.setState j state)

/-! ## Mirroring the store -/

/-- The rows are the profiles listed, the label is shown if there are none, the active
    profile is one of them, and a Connect goes to one of them. -/
structure Mirrors (s : ConnectionScreen store) : Prop where
  rows : s.rows.map ProfileRow.profile = store.list j s.fs
  emptyLabel : s.emptyLabel = true ↔ store.list j s.fs = []
  active : ∀ id, s.activeId = some id → ∃ p ∈ store.list j s.fs, p.id = id
  sends : ∀ row ∈ s.rows, ∀ outcome path o,
    (s.click row outcome).commands = s.commands ++ [.connect path o] →
      ∃ p ∈ store.list j s.fs, store.IsPathOf p.id path

/-- The UUID of an import is new. -/
def New (s : ConnectionScreen store) : Action → Prop
  | .openFile _ id _ _ (.ok _) => store.Fresh j s.fs id
  | _ => True

/-- A deletion takes away no profile listed. -/
def Keeps (s : ConnectionScreen store) : Action → Prop
  | .delete k => ∀ row, s.rows[k]? = some row → store.Spares j s.fs row.profile.id
  | _ => True

variable {j} {s s' : ConnectionScreen store}

@[simp] theorem fs_refreshList : (s.refreshList j).fs = s.fs := by
  rw [refreshList]
  split <;> rfl

@[simp] theorem activeId_refreshList : (s.refreshList j).activeId = s.activeId := by
  rw [refreshList]
  split <;> rfl

/-- What a click sends, with a row for each profile listed. -/
theorem sends_of_rows (hrows : s.rows.map ProfileRow.profile = store.list j s.fs)
    {row : ProfileRow store} (hrow : row ∈ s.rows) {outcome o : ConnectOutcome} {path : Text}
    (hsends : (s.click row outcome).commands = s.commands ++ [.connect path o]) :
    ∃ p ∈ store.list j s.fs, store.IsPathOf p.id path := by
  refine ⟨row.profile, hrows ▸ List.mem_map_of_mem hrow, ?_⟩
  rw [click] at hsends
  split_ifs at hsends
  · cases List.append_cancel_left hsends
  · cases List.append_cancel_left hsends
    exact row.isPath

/-- A step that leaves the rows, and what is listed. -/
theorem Mirrors.of_rows (hs : s.Mirrors j) (hrows : s'.rows = s.rows)
    (hlabel : s'.emptyLabel = s.emptyLabel) (hlist : store.list j s'.fs = store.list j s.fs)
    (hactive : ∀ id, s'.activeId = some id →
      s.activeId = some id ∨ ∃ row ∈ s.rows, row.profile.id = id) : s'.Mirrors j := by
  have hrows' : s'.rows.map ProfileRow.profile = store.list j s'.fs := by rw [hrows, hs.rows, hlist]
  refine ⟨hrows', by rw [hlabel, hlist, hs.emptyLabel], fun id hid => ?_,
    fun row hrow _ _ _ => sends_of_rows hrows' hrow⟩
  rw [hlist]
  rcases hactive id hid with hid | ⟨row, hrow, rfl⟩
  · exact hs.active id hid
  · exact ⟨row.profile, hs.rows ▸ List.mem_map_of_mem hrow, rfl⟩

/-- The rows are right once they are built again. -/
theorem mirrors_refreshList
    (hactive : ∀ id, s.activeId = some id → ∃ p ∈ store.list j s.fs, p.id = id) :
    (s.refreshList j).Mirrors j := by
  have hrows : (s.refreshList j).rows.map ProfileRow.profile = store.list j s.fs ∧
      ((s.refreshList j).emptyLabel = true ↔ store.list j s.fs = []) := by
    rw [refreshList]
    split
    · next hnil => exact ⟨hnil.symm, iff_of_true rfl hnil⟩
    · next p profiles hcons =>
      rw [hcons]
      refine ⟨?_, iff_of_false Bool.false_ne_true (List.cons_ne_nil p profiles)⟩
      rw [List.map_map]
      exact List.map_id (p :: profiles)
  rw [← fs_refreshList (j := j)] at hrows
  refine ⟨hrows.1, hrows.2, ?_, fun row hrow _ _ _ => sends_of_rows hrows.1 hrow⟩
  rw [fs_refreshList, activeId_refreshList]
  exact hactive

/-- After a step, the rows are right still exactly if it takes away no profile listed. -/
theorem mirrors_step_iff {a : Action} (hs : s.Mirrors j) (hnew : s.New j a)
    (h : s.step j a = some s') : s'.Mirrors j ↔ s.Keeps j a := by
  cases a with
  | openFile faults id secs fileName read =>
    obtain rfl := Option.some.inj h
    refine iff_of_true ?_ trivial
    cases read with
    | ok content =>
      refine mirrors_refreshList fun id' hid' => ?_
      obtain ⟨p, hp, hpid⟩ := hs.active id' hid'
      exact ⟨p, hnew.mem_list_importProfile faults secs (nameOfFile fileName) content hp, hpid⟩
    | error e => exact hs.of_rows rfl rfl rfl fun _ hid => .inl hid
  | click k outcome =>
    obtain ⟨row, hrow, h⟩ := Option.bind_eq_some_iff.1 h
    split_ifs at h
    obtain rfl := Option.some.inj h
    refine iff_of_true ?_ trivial
    have hmem := List.mem_of_getElem? hrow
    rw [click]
    split_ifs
    · exact hs.of_rows rfl rfl rfl fun _ hid => by cases hid
    · exact hs.of_rows rfl rfl rfl fun _ hid => .inr ⟨row, hmem, Option.some.inj hid⟩
  | delete k =>
    obtain ⟨row, hrow, h⟩ := Option.bind_eq_some_iff.1 h
    split_ifs at h
    obtain rfl := Option.some.inj h
    have hlisted : store.list j s.fs ≠ [] := by
      rw [← hs.rows]
      exact List.ne_nil_of_mem (List.mem_map_of_mem (List.mem_of_getElem? hrow))
    have hkeeps : s.Keeps j (.delete k) ↔
        store.list j (store.delete row.profile.id s.fs) = store.list j s.fs := by
      rw [ProfileStore.list_delete_eq_iff hlisted, Keeps, hrow]
      simp
    rw [hkeeps]
    -- The rows are as they were.
    exact ⟨fun hs' => hs'.rows.symm.trans hs.rows,
      fun hlist => hs.of_rows rfl rfl hlist fun _ hid => .inl hid⟩
  | setState state =>
    obtain rfl := Option.some.inj h
    exact iff_of_true (mirrors_refreshList hs.active) trivial

/-- In a run with new UUIDs, the rows mirror the store in every state exactly if no
    deletion takes away a profile listed. -/
theorem mirrors_iff (store : ProfileStore) (j : ProfileJson) (fs : FileSystem)
    {actions : List Action} (hnew : Runs.Along (step j) (New j) (new j store fs) actions) :
    (∀ pre, pre <+: actions → ∀ s, Runs.run (step j) (new j store fs) pre = some s → s.Mirrors j) ↔
      Runs.Along (step j) (Keeps j) (new j store fs) actions :=
  Runs.reached_iff_of mirrors_step_iff (mirrors_refreshList fun _ hid => by cases hid) hnew

section Example

open ProfileStore

/-- A profile is imported. -/
def importWork : Action :=
  .openFile {} work.id work.secs (some "work.ovpn".toList) (.ok work.content)

/-- The login is cancelled. -/
def noLogin : ConnectOutcome := ⟨⟨none, none, none⟩, .error []⟩

/-- A profile is imported, and its button used. -/
theorem mirrors_importWork :
    ((Runs.run (step .plainJson) (new .plainJson profilesStore freshSystem)
        [importWork, .click 0 noLogin, .setState .connecting]).map fun s =>
          (s.activeId, s.rows.map ProfileRow.sensitive)) = some (some work.id.text, [false]) ∧
      ∀ pre, pre <+: [importWork, .click 0 noLogin, .setState .connecting] →
        ∀ s, Runs.run (step .plainJson) (new .plainJson profilesStore freshSystem) pre = some s →
          s.Mirrors .plainJson := by
  have hnew : (new .plainJson profilesStore freshSystem).New .plainJson importWork := by
    rw [importWork, New, new, fs_refreshList]
    exact fresh_freshSystem work.id
  refine ⟨by decide +kernel, (mirrors_iff _ _ _ ?_).2 ?_⟩
  · exact fun _ _ => ⟨hnew, fun _ _ => ⟨trivial, fun _ _ => ⟨trivial, trivial⟩⟩⟩
  · exact fun _ _ => ⟨trivial, fun _ _ => ⟨trivial, fun _ _ => ⟨trivial, trivial⟩⟩⟩

/-- It is deleted by the menu of its row: the row is left, and the label is not shown. -/
theorem not_mirrors :
    ((Runs.run (step .plainJson) (new .plainJson profilesStore freshSystem)
        [importWork, .delete 0]).map fun s => (s.rows.map ProfileRow.profile, s.emptyLabel,
          profilesStore.list .plainJson s.fs)) = some ([work.profile], false, []) ∧
      ¬∀ pre, pre <+: [importWork, .delete 0] →
        ∀ s, Runs.run (step .plainJson) (new .plainJson profilesStore freshSystem) pre = some s →
          s.Mirrors .plainJson := by
  rw [and_iff_left_of_imp]
  · decide +kernel
  · intro hrun hall
    obtain ⟨s, hs, heq⟩ := Option.map_eq_some_iff.1 hrun
    have hrows := (hall _ List.prefix_rfl s hs).rows
    have hleft : s.rows.map ProfileRow.profile = [work.profile] := congrArg Prod.fst heq
    have hlist : profilesStore.list .plainJson s.fs = [] := congrArg (fun t => t.2.2) heq
    rw [hleft, hlist] at hrows
    cases hrows

end Example

end ConnectionScreen

end OpenLawsVpn
