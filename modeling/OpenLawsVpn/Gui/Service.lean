import OpenLawsVpn.Gui.LogCallback
import Mathlib.Data.List.Infix

/-!
# The service of the GUI

The service thread processes the commands of the GUI one at a time. A *Connect*
makes a new client, runs both phases on it, and stores it; a *Disconnect* takes
the client stored, disconnects and frees it.

A client is lost when it is neither stored nor released. Storing a new client
drops the one stored before, so no client is lost exactly if no two Connects
follow each other without a Disconnect in between (`accounted_iff`).

* `Service.process`, `Service.run`: the loop of the thread, with what each step results in given by
  the command;
* `afterPhase1_cases`: the ways in which a Connect goes on;
* `releases_connect`, `releases_disconnect`: what each command releases;
* `accounted_iff`: the criterion, for every list of commands;
* `lost_of_reconnect`: an attempt that failed, and another one.
-/

namespace OpenLawsVpn

/-- `Phase1ResultC`: the texts, or null. -/
structure Phase1ResultC where
  samlUrl : Option CString
  stateId : Option CString
  remoteIp : Option CString
  deriving DecidableEq, Repr

/-- What the steps of a Connect result in. Phase 2 has no result. -/
structure ConnectOutcome where
  phase1 : Phase1ResultC
  capture : Except Text Text
  deriving DecidableEq

/-- A command of the GUI. A Connect has what its steps will result in. -/
inductive VpnCommand
  | connect (configPath : Text) (outcome : ConnectOutcome)
  | disconnect

/-- What the service does: events for the GUI, and calls of the library, on the
    client with a number. -/
inductive ServiceAction
  | emit (event : VpnEvent)
  | new (client : ℕ) (configPath : Text)
  | setLogCallback (client : ℕ)
  | setConnectMode (client : ℕ) (mode : ℕ)
  | connectPhase1 (client : ℕ)
  | openBrowser (url : Text)
  | connectPhase2 (client : ℕ) (stateId token remoteIp : Text)
  | disconnect (client : ℕ)
  | free (client : ℕ)
  /-- The task of the command panics, which ends it. -/
  | panic
  deriving DecidableEq, Repr

/-- The state of the service: the client stored, the number of clients made, and
    the trace. -/
structure Service where
  client : Option ℕ := none
  created : ℕ := 0
  trace : List ServiceAction := []

namespace Service

/-- A text of a Phase 1 result. -/
def phase1Text (s : Option CString) : Text :=
  match s with
  | none => []
  | some s => toStringLossy s.bytes

/-- The part of a Connect after Phase 1, for the client `id`. -/
def afterPhase1 (id : ℕ) (o : ConnectOutcome) : List ServiceAction :=
  let samlUrl := phase1Text o.phase1.samlUrl
  let stateId := phase1Text o.phase1.stateId
  let remoteIp := phase1Text o.phase1.remoteIp
  if samlUrl = [] ∨ stateId = [] then
    [.emit (.stateChanged (.error
      "Phase 1 failed — check openvpn3 D-Bus services are running".toList))]
  else
    [.openBrowser samlUrl, .emit (.stateChanged (.waitingSaml samlUrl))] ++
      match o.capture with
      | .error e => [.emit (.stateChanged (.error ("SAML login failed: ".toList ++ e)))]
      | .ok token =>
        .emit (.stateChanged .connecting) ::
          -- The texts become C strings. The client stored is still this one, as
          -- commands are processed one at a time.
          if '\x00' ∈ stateId ∨ '\x00' ∈ token ∨ '\x00' ∈ remoteIp then [.panic]
          else [.connectPhase2 id stateId token remoteIp]

/-- The actions of a Connect, once its client `id` is made and stored. -/
def attempt (id : ℕ) (o : ConnectOutcome) : List ServiceAction :=
  [.emit (.stateChanged .connecting), .connectPhase1 id] ++ afterPhase1 id o

/-- A Connect. The client stored before is dropped. -/
def connect (configPath : Text) (o : ConnectOutcome) (s : Service) : Service :=
  if '\x00' ∈ configPath then { s with trace := s.trace ++ [.panic] }
  else
    { client := some s.created
      created := s.created + 1
      trace := s.trace ++ [.new s.created configPath, .setLogCallback s.created,
        .setConnectMode s.created 1] ++ attempt s.created o }

/-- A Disconnect. -/
def disconnect (s : Service) : Service :=
  { s with
    client := none
    trace := s.trace ++ [.emit (.stateChanged .disconnecting)] ++
      (match s.client with
        | some id => [.disconnect id, .free id]
        | none => []) ++
      [.emit (.logLine "Disconnected.".toList), .emit (.stateChanged .idle)] }

/-- The service thread processes a command. -/
def process (s : Service) : VpnCommand → Service
  | .connect configPath o => s.connect configPath o
  | .disconnect => s.disconnect

/-- The service thread. -/
def run (commands : List VpnCommand) (s : Service) : Service := commands.foldl process s

/-! ## Clients -/

/-- The action releases the client. -/
def IsRelease (id : ℕ) (a : ServiceAction) : Prop := a = .disconnect id ∨ a = .free id

instance (id : ℕ) (a : ServiceAction) : Decidable (IsRelease id a) :=
  inferInstanceAs (Decidable (_ ∨ _))

/-- The actions that release the client. -/
def releases (id : ℕ) (trace : List ServiceAction) : List ServiceAction :=
  trace.filter (IsRelease id ·)

/-- Each client made is stored, or was disconnected and then freed, once. -/
def Accounted (s : Service) : Prop :=
  ∀ id < s.created, s.client = some id ∨ releases id s.trace = [.disconnect id, .free id]

/-- No client is made while one is stored: between two Connects, there is a
    Disconnect. A Connect with a path that is no C string makes no client. -/
def Separated : Bool → List VpnCommand → Prop
  | _, [] => True
  | stored, .connect configPath _ :: commands =>
    if '\x00' ∈ configPath then Separated stored commands
    else stored = false ∧ Separated true commands
  | _, .disconnect :: commands => Separated false commands

/-- What holds of the clients after each command: the client stored was made and
    not released, and no client to come was. -/
structure Consistent (s : Service) : Prop where
  stored : ∀ id, s.client = some id → id < s.created ∧ releases id s.trace = []
  fresh : ∀ id, s.created ≤ id → releases id s.trace = []

/-- The releases of a longer trace are those of its parts. -/
theorem releases_append (id : ℕ) (trace trace' : List ServiceAction) :
    releases id (trace ++ trace') = releases id trace ++ releases id trace' :=
  List.filter_append _ _

/-- Where no action releases the client there is no release. -/
theorem releases_eq_nil {id : ℕ} {trace : List ServiceAction} (h : ∀ a ∈ trace, ¬IsRelease id a) :
    releases id trace = [] := by
  rw [releases, List.filter_eq_nil_iff]
  exact fun a ha => by simpa using h a ha

/-- The ways in which a Connect goes on after Phase 1. -/
theorem afterPhase1_cases (id : ℕ) (o : ConnectOutcome) :
    (∃ e, afterPhase1 id o = [.emit (.stateChanged (.error e))]) ∨
    (∃ url e, afterPhase1 id o = [.openBrowser url, .emit (.stateChanged (.waitingSaml url)),
      .emit (.stateChanged (.error e))]) ∨
    ∃ url a, afterPhase1 id o = [.openBrowser url, .emit (.stateChanged (.waitingSaml url)),
      .emit (.stateChanged .connecting), a] ∧ (a = .panic ∨ ∃ i t r, a = .connectPhase2 id i t r) := by
  unfold afterPhase1
  dsimp only
  split_ifs
  · exact .inl ⟨_, rfl⟩
  · cases o.capture with
    | error e => exact .inr (.inl ⟨_, _, rfl⟩)
    | ok token =>
      dsimp only
      split_ifs
      · exact .inr (.inr ⟨_, _, rfl, .inl rfl⟩)
      · exact .inr (.inr ⟨_, _, rfl, .inr ⟨_, _, _, rfl⟩⟩)

/-- A Connect releases no client. -/
theorem releases_attempt (id id' : ℕ) (o : ConnectOutcome) : releases id (attempt id' o) = [] := by
  rcases afterPhase1_cases id' o with ⟨e, h⟩ | ⟨url, e, h⟩ | ⟨url, a, h, rfl | ⟨i, t, r, rfl⟩⟩
  all_goals
    rw [attempt, h]
    exact releases_eq_nil (by simp [IsRelease])

variable {s : Service}

/-! ### Commands -/

/-- Without a client, a Connect changes nothing of the clients. -/
theorem connect_of_nul {configPath : Text} (h : '\x00' ∈ configPath) (o : ConnectOutcome) :
    (s.connect configPath o).client = s.client ∧ (s.connect configPath o).created = s.created := by
  rw [connect, if_pos h]
  exact ⟨rfl, rfl⟩

/-- The client made takes the place of the one stored. -/
theorem connect_of_path {configPath : Text} (h : '\x00' ∉ configPath) (o : ConnectOutcome) :
    (s.connect configPath o).client = some s.created ∧
      (s.connect configPath o).created = s.created + 1 := by
  rw [connect, if_neg h]
  exact ⟨rfl, rfl⟩

/-- A Connect that makes its client releases no other. -/
theorem releases_connect (id : ℕ) (configPath : Text) (o : ConnectOutcome) :
    releases id (s.connect configPath o).trace = releases id s.trace := by
  rw [connect]
  split_ifs
  · rw [releases_append]
    exact List.append_nil _
  · rw [releases_append, releases_append, releases_attempt, List.append_nil]
    exact List.append_nil _

/-- A Disconnect releases the client stored. -/
theorem releases_disconnect (id : ℕ) :
    releases id s.disconnect.trace =
      releases id s.trace ++ if s.client = some id then [.disconnect id, .free id] else [] := by
  have hbefore : releases id [.emit (.stateChanged .disconnecting)] = [] :=
    releases_eq_nil (by simp [IsRelease])
  have hafter : releases id [.emit (.logLine "Disconnected.".toList),
      .emit (.stateChanged .idle)] = [] := releases_eq_nil (by simp [IsRelease])
  rw [disconnect, releases_append, releases_append, releases_append, hbefore, hafter,
    List.append_nil, List.append_nil]
  cases s.client with
  | none => rfl
  | some id' =>
    by_cases hid : id' = id
    · subst hid
      simp [releases, IsRelease]
    · simp [releases, IsRelease, hid]

theorem consistent_init : Consistent {} where
  stored _ h := by cases h
  fresh _ _ := rfl

/-- Every command keeps what holds of the clients. -/
theorem Consistent.process (h : Consistent s) (command : VpnCommand) :
    Consistent (s.process command) := by
  cases command with
  | connect configPath o =>
    by_cases hnul : '\x00' ∈ configPath
    · obtain ⟨hclient, hcreated⟩ := connect_of_nul (s := s) hnul o
      refine ⟨fun id hid => ?_, fun id hid => ?_⟩
      · rw [Service.process, hclient] at hid
        rw [Service.process, releases_connect, hcreated]
        exact h.stored id hid
      · rw [Service.process, hcreated] at hid
        rw [Service.process, releases_connect]
        exact h.fresh id hid
    · -- The client made is the one stored: what was released before are others.
      obtain ⟨hclient, hcreated⟩ := connect_of_path (s := s) hnul o
      refine ⟨fun id hid => ?_, fun id hid => ?_⟩
      · rw [Service.process, hclient] at hid
        obtain rfl := Option.some.inj hid
        rw [Service.process, releases_connect, hcreated]
        exact ⟨Nat.lt_succ_self _, h.fresh _ le_rfl⟩
      · rw [Service.process, hcreated] at hid
        rw [Service.process, releases_connect]
        exact h.fresh id ((Nat.le_succ _).trans hid)
  | disconnect =>
    refine ⟨fun id hid => (by cases hid), fun id hid => ?_⟩
    have hne : s.client ≠ some id := fun hstored =>
      absurd (h.stored id hstored).1 (Nat.not_lt.2 hid)
    rw [Service.process, releases_disconnect, if_neg hne, List.append_nil]
    exact h.fresh id hid

/-- With a NUL in the path no client is made, and the account does not change. -/
theorem accounted_connect_of_nul {configPath : Text} (hnul : '\x00' ∈ configPath)
    (o : ConnectOutcome) : Accounted (s.connect configPath o) ↔ Accounted s := by
  obtain ⟨hclient, hcreated⟩ := connect_of_nul (s := s) hnul o
  simp only [Accounted, hclient, hcreated, releases_connect]

/-- A Connect keeps account of the clients exactly if none was stored: the one it
    takes the place of is never released. -/
theorem accounted_connect_iff (h : Consistent s) (hs : Accounted s) {configPath : Text}
    (hpath : '\x00' ∉ configPath) (o : ConnectOutcome) :
    Accounted (s.connect configPath o) ↔ s.client.isSome = false := by
  obtain ⟨hclient, hcreated⟩ := connect_of_path (s := s) hpath o
  simp only [Accounted, hclient, hcreated, releases_connect]
  constructor
  · -- A client stored before is not stored any more, and was not released.
    intro hall
    by_contra hstored
    obtain ⟨id, hid⟩ := Option.isSome_iff_exists.1 (Bool.eq_true_of_not_eq_false hstored)
    obtain ⟨hlt, hreleases⟩ := h.stored id hid
    rcases hall id (hlt.trans (Nat.lt_succ_self _)) with heq | heq
    · exact hlt.ne (Option.some.inj heq).symm
    · rw [hreleases] at heq
      cases heq
  · intro hnone id hid
    rcases Nat.lt_succ_iff_lt_or_eq.1 hid with hlt | rfl
    · refine .inr ((hs id hlt).resolve_left fun hid => ?_)
      rw [hid] at hnone
      cases hnone
    · exact .inl rfl

/-- A Disconnect leaves the clients accounted for. -/
theorem Accounted.disconnect (h : Consistent s) (hs : Accounted s) : Accounted s.disconnect := by
  intro id hid
  refine .inr ?_
  rw [releases_disconnect]
  by_cases hstored : s.client = some id
  · rw [(h.stored id hstored).2, if_pos hstored, List.nil_append]
  · rw [(hs id hid).resolve_left hstored, if_neg hstored, List.append_nil]

/-! ### Runs -/

theorem forall_prefix_cons_iff {α : Type*} {P : List α → Prop} {a : α} {l : List α} :
    (∀ l', l' <+: a :: l → P l') ↔ P [] ∧ ∀ l', l' <+: l → P (a :: l') := by
  constructor
  · exact fun h => ⟨h [] List.nil_prefix, fun l' hl => h (a :: l') (List.cons_prefix_cons.2 ⟨rfl, hl⟩)⟩
  · rintro ⟨hnil, h⟩ l' hl
    rcases List.prefix_cons_iff.1 hl with rfl | ⟨l'', rfl, hl''⟩
    · exact hnil
    · exact h l'' hl''

/-- The clients are accounted for after every prefix exactly if the commands are separated. -/
theorem accounted_run_iff (h : Consistent s) (hs : Accounted s) (commands : List VpnCommand) :
    (∀ l, l <+: commands → Accounted (run l s)) ↔ Separated s.client.isSome commands := by
  induction commands generalizing s with
  | nil =>
    rw [Separated, iff_true]
    intro l hl
    rw [List.prefix_nil.1 hl]
    exact hs
  | cons command commands ih =>
    rw [forall_prefix_cons_iff, and_iff_right (show Accounted (run [] s) from hs)]
    have hprocess := h.process command
    cases command with
    | disconnect => exact ih hprocess (Accounted.disconnect h hs)
    | connect configPath o =>
      rw [Separated]
      by_cases hnul : '\x00' ∈ configPath
      · rw [if_pos hnul, ← (connect_of_nul hnul o).1]
        exact ih hprocess ((accounted_connect_of_nul hnul o).2 hs)
      rw [if_neg hnul]
      -- The first command decides for itself, and the service goes on from where it leaves it.
      have hiff := accounted_connect_iff h hs hnul o
      constructor
      · intro hall
        have haccounted : Accounted (s.process (.connect configPath o)) := hall [] List.nil_prefix
        refine ⟨hiff.1 haccounted, ?_⟩
        have hseparated := (ih hprocess haccounted).1 hall
        rwa [Service.process, (connect_of_path hnul o).1] at hseparated
      · rintro ⟨hnone, hseparated⟩
        refine (ih hprocess (hiff.2 hnone)).2 ?_
        rwa [Service.process, (connect_of_path hnul o).1]

/-- After each command, every client made is stored, or was disconnected and freed
    once, exactly if no client is made while one is stored. -/
theorem accounted_iff (commands : List VpnCommand) :
    (∀ l, l <+: commands → Accounted (run l {})) ↔ Separated false commands :=
  accounted_run_iff consistent_init (fun _ h => absurd h (Nat.not_lt_zero _)) commands

/-- A Connect without a result of Phase 1. -/
def failed : ConnectOutcome := ⟨⟨none, none, none⟩, .error []⟩

/-- The client of an attempt that failed is lost with the next attempt, and is not
    released by a Disconnect. -/
theorem lost_of_reconnect :
    let s := run [.connect "a.ovpn".toList failed, .connect "a.ovpn".toList failed, .disconnect] {}
    ¬Accounted s ∧ 0 < s.created ∧ s.client = none ∧ releases 0 s.trace = [] := by
  refine ⟨fun h => ?_, by decide, rfl, by decide⟩
  rcases h 0 (by decide) with h | h
  · cases h
  · revert h
    decide

end Service

end OpenLawsVpn
