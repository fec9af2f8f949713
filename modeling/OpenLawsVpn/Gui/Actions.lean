import OpenLawsVpn.Gui.Attempt

/-!
# The service, action by action

The service thread performs the actions of a command one after the other
(`Service.foldl_perform_actions`). Once a command has begun, what is left of it
(`Service.Continues`) makes no client, and a change to a state at rest and a Phase 2
are at its end.

* `Service.actions`: the actions of a command, of which `Service.process` is the effect;
* `Continues.tail`, `Continues.eq_nil_of_isLast`: what is left after each of them;
* `continues_connect`, `continues_disconnect`: a command that has begun continues.

With them, the screen and the service can take turns between any two actions.
-/

namespace OpenLawsVpn

namespace Service

/-- The actions of a command. -/
def actions (s : Service) : VpnCommand → List ServiceAction
  | .connect configPath o =>
    if '\x00' ∈ configPath then [.panic]
    else
      [.new s.created configPath, .setLogCallback s.created, .setConnectMode s.created 1] ++
        attempt s.created o
  | .disconnect =>
    [.emit (.stateChanged .disconnecting)] ++
      (match s.client with
        | some id => [.disconnect id, .free id]
        | none => []) ++
      [.emit (.logLine "Disconnected.".toList), .emit (.stateChanged .idle)]

/-- The service after an action. -/
def perform (s : Service) (a : ServiceAction) : Service :=
  match a with
  | .new id _ => { client := some id, created := id + 1, trace := s.trace ++ [a] }
  | .disconnect _ => { s with client := none, trace := s.trace ++ [a] }
  | _ => { s with trace := s.trace ++ [a] }

/-- The client stored was made from the path. -/
def Stores (s : Service) (configPath : Text) : Prop :=
  ∃ id, s.client = some id ∧ .new id configPath ∈ s.trace

end Service

/-- The state is *Connected*. -/
def ConnectionState.isConnected : ConnectionState → Bool
  | .connected .. => true
  | _ => false

/-- Neither busy nor *Connected*: the screen invites to connect. -/
def ConnectionState.atRest (ui : ConnectionState) : Bool := !ui.isBusy && !ui.isConnected

/-- The state of the screen that an event changes to. -/
def VpnEvent.change? : VpnEvent → Option ConnectionState
  | .stateChanged state => some (vpnStateToUi state)
  | .logLine _ => none

/-- The change that an action sends. -/
def ServiceAction.change? : ServiceAction → Option ConnectionState
  | .emit e => e.change?
  | _ => none

/-- The change that is sent for a line. -/
def lineChange? (message : Bytes) : Option ConnectionState :=
  (stateChange (toStringLossy (cStr message))).map vpnStateToUi

/-- The command is a Connect. -/
def VpnCommand.isConnect : VpnCommand → Bool
  | .connect .. => true
  | .disconnect => false

/-- The first change that a command sends. -/
def VpnCommand.firstChange : VpnCommand → ConnectionState
  | .connect .. => .connecting
  | .disconnect => .disconnecting

/-- The profile that a command connects. -/
def VpnCommand.configPath? : VpnCommand → Option Text
  | .connect configPath _ => some configPath
  | .disconnect => none

/-! ## What is left of a command -/

/-- The action is a call of Phase 2. -/
def ServiceAction.isConnectPhase2 : ServiceAction → Bool
  | .connectPhase2 .. => true
  | _ => false

/-- The action sends a change to a state at rest, or runs Phase 2: nothing follows it
    in a command. -/
def ServiceAction.isLast (a : ServiceAction) : Bool :=
  a.isConnectPhase2 || a.change?.any ConnectionState.atRest

namespace Service

variable {s : Service} {a : ServiceAction} {l : List ServiceAction} {c : VpnCommand}

/-- The action changes the client stored. -/
def ChangesClient : ServiceAction → Bool
  | .new .. | .disconnect _ => true
  | _ => false

/-- An action that leaves the client alone is only recorded. -/
theorem perform_of_not_changesClient (h : ChangesClient a = false) :
    s.perform a = { s with trace := s.trace ++ [a] } := by
  cases a <;> first | rfl | cases h

theorem foldl_perform (h : ∀ a ∈ l, ChangesClient a = false) :
    l.foldl perform s = { s with trace := s.trace ++ l } := by
  induction l generalizing s with
  | nil => rw [List.foldl_nil, List.append_nil]
  | cons a l ih =>
    rw [List.foldl_cons, perform_of_not_changesClient (h a List.mem_cons_self),
      ih fun b hb => h b (List.mem_cons_of_mem _ hb), List.append_assoc, List.singleton_append]

/-- What is left of a command that has begun. -/
structure Continues (c : VpnCommand) (l : List ServiceAction) : Prop where
  new : ∀ id configPath, .new id configPath ∉ l
  change : ∀ a ∈ l, ∀ x ∈ a.change?, x.isConnected = false ∧ x ≠ .disconnecting
  last : l.Pairwise fun a _ => a.isLast = false
  nul : ∀ configPath ∈ c.configPath?, '\x00' ∈ configPath → l = []
  connect : c.isConnect → ∀ id, .disconnect id ∉ l
  disconnect : c.isConnect = false → ∀ a ∈ l,
    a.isConnectPhase2 = false ∧ ∀ x ∈ a.change?, x.atRest

/-- What is left of a command continues it after its next action as well. -/
theorem Continues.tail (h : Continues c (a :: l)) : Continues c l where
  new id configPath hmem := h.new id configPath (List.mem_cons_of_mem _ hmem)
  change b hb := h.change b (List.mem_cons_of_mem _ hb)
  last := (List.pairwise_cons.1 h.last).2
  nul configPath hpath hnul := absurd (h.nul configPath hpath hnul) (List.cons_ne_nil _ _)
  connect hc id hmem := h.connect hc id (List.mem_cons_of_mem _ hmem)
  disconnect hc b hb := h.disconnect hc b (List.mem_cons_of_mem _ hb)

/-- Nothing follows the last action of a command. -/
theorem Continues.eq_nil_of_isLast (h : Continues c (a :: l)) (ha : a.isLast) : l = [] := by
  rw [List.eq_nil_iff_forall_not_mem]
  intro b hb
  have hnot := (List.pairwise_cons.1 h.last).1 b hb
  rw [ha] at hnot
  cases hnot

/-- A Connect that has begun is not at its start. -/
theorem Continues.ne_actions (h : Continues c l) (hc : c.isConnect) (hl : l ≠ []) (s : Service) :
    l ≠ s.actions c := by
  cases c with
  | disconnect => cases hc
  | connect configPath o =>
    rintro rfl
    by_cases hnul : '\x00' ∈ configPath
    · exact hl (h.nul configPath rfl hnul)
    · refine h.new s.created configPath ?_
      rw [actions, if_neg hnul]
      exact List.mem_cons_self

/-- After the client is made, a Connect goes on as an attempt. -/
theorem continues_connect (s : Service) {configPath : Text} (hnul : '\x00' ∉ configPath)
    (o : ConnectOutcome) :
    Continues (.connect configPath o)
      ([.setLogCallback s.created, .setConnectMode s.created 1] ++ attempt s.created o) := by
  rcases afterPhase1_cases s.created o with ⟨e, h⟩ | ⟨url, e, h⟩ | ⟨url, a, h, rfl | ⟨i, t, r, rfl⟩⟩
  all_goals
    rw [attempt, h]
    constructor
    · simp
    · simp [ServiceAction.change?, VpnEvent.change?, vpnStateToUi, ConnectionState.isConnected]
    · simp [ServiceAction.isLast, ServiceAction.isConnectPhase2, ServiceAction.change?,
        VpnEvent.change?, vpnStateToUi, ConnectionState.atRest, ConnectionState.isBusy]
    · intro configPath' hpath hnul'
      obtain rfl := Option.some.inj hpath
      exact absurd hnul' hnul
    · simp
    · simp [VpnCommand.isConnect]

/-- A Connect disconnects no client. -/
theorem disconnect_notMem_connect {configPath : Text} {o : ConnectOutcome} (id : ℕ) :
    .disconnect id ∉ s.actions (.connect configPath o) := by
  rw [actions]
  split_ifs with hnul
  · simp
  · intro hmem
    rw [List.cons_append, List.mem_cons] at hmem
    rcases hmem with hmem | hmem
    · cases hmem
    · exact (continues_connect s hnul o).connect rfl id hmem

/-- After its first change, a Disconnect goes on with the client stored. -/
theorem continues_disconnect (s : Service) : Continues .disconnect (s.actions .disconnect).tail := by
  cases hclient : s.client
  all_goals
    rw [actions, hclient]
    constructor
    · simp
    · simp [ServiceAction.change?, VpnEvent.change?, vpnStateToUi, ConnectionState.isConnected]
    · simp [ServiceAction.isLast, ServiceAction.isConnectPhase2, ServiceAction.change?,
        VpnEvent.change?]
    · simp [VpnCommand.configPath?]
    · simp [VpnCommand.isConnect]
    · simp [ServiceAction.isConnectPhase2, ServiceAction.change?, VpnEvent.change?, vpnStateToUi,
        ConnectionState.atRest, ConnectionState.isBusy, ConnectionState.isConnected]

/-- A command is processed by its actions. -/
theorem foldl_perform_actions (s : Service) (c : VpnCommand) :
    (s.actions c).foldl perform s = s.process c := by
  cases c with
  | connect configPath o =>
    by_cases hnul : '\x00' ∈ configPath
    · rw [actions, if_pos hnul, process, connect, if_pos hnul]
      rfl
    -- Only `new` and `disconnect` change what is stored.
    · have hkeeps : ∀ a ∈ [ServiceAction.setLogCallback s.created,
          .setConnectMode s.created 1] ++ attempt s.created o, ChangesClient a = false := by
        intro a ha
        have h := continues_connect s hnul o
        cases a with
        | new id configPath => exact absurd ha (h.new id configPath)
        | disconnect id => exact absurd ha (h.connect rfl id)
        | _ => rfl
      rw [actions, if_neg hnul, process, connect, if_neg hnul, List.cons_append,
        List.foldl_cons, foldl_perform hkeeps]
      simp [perform]
  | disconnect =>
    rw [actions, process, disconnect]
    cases hclient : s.client <;> simp [perform, hclient]

end Service

end OpenLawsVpn
