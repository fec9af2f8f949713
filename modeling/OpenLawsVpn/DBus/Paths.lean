import OpenLawsVpn.DBus.Steps

/-!
# The paths of an attempt

The calls after the import are made on the paths that the services answered with:
the one of the configuration, and the one of the session for it
(`PathsReplied`). An attempt that goes on without an answer extracts a path from
nothing. It does so exactly if the profile is imported and each of the five
attempts at the session ends with an error after which to try again
(`pathsFromReplies_iff`): the loop ends without an answer and without throwing.

* `Exhausted`: the five attempts at the session all end with an error to try again after;
* `pathsFromReplies_iff`: the criterion;
* `undefined_of_serviceUnknown`: the attempt with five such errors.
-/

namespace OpenLawsVpn.DBusClient

open Wp

/-- The configuration was imported under the path stored. -/
def ConfigReplied (c : DBusClient) : Prop :=
  ∃ content p, .call (.importConfig content (.ok p)) ∈ c.trace ∧ c.configPath = p.bytes

/-- The paths stored are those of a configuration imported, and of a session created
    for it. -/
def PathsReplied (c : DBusClient) : Prop :=
  c.ConfigReplied ∧ ∃ p, .call (.newTunnel c.configPath (.ok p)) ∈ c.trace ∧ c.sessionPath = p.bytes

/-- The attempt throws, or it goes on with the paths replied. -/
def PathsFromReplies : EStateM.Result Stop DBusClient Unit → Prop
  | .ok _ c => c.PathsReplied
  | .error (.threw _) _ => True
  | .error .undefined _ => False
  | .error .waiting c => c.PathsReplied

variable {env : Environment} {content password : Bytes}

/-- The path of the profile stays the one that was replied. -/
theorem steady_configReplied : Steady env content password ConfigReplied where
  push c a _ h := by
    obtain ⟨content, p, hmem, hpath⟩ := h
    exact ⟨content, p, List.mem_append_left _ hmem, hpath⟩
  connected _ h := h
  fail _ _ h := h

theorem steady_pathsReplied : Steady env content password PathsReplied where
  push c a ha h := by
    obtain ⟨hconfig, p, hmem, hpath⟩ := h
    exact ⟨steady_configReplied.push c a ha hconfig, p, List.mem_append_left _ hmem, hpath⟩
  connected _ h := h
  fail _ _ h := h

/-- The path of the configuration is stored with the answer. -/
theorem configReplied_of_import (c : DBusClient) (content : Bytes) (path : ObjectPath) :
    ConfigReplied { c.push (.call (.importConfig content (.ok path))) with
      configPath := path.bytes } :=
  ⟨content, path, List.mem_append_right _ List.mem_cons_self, rfl⟩

/-- The path of the session is the one that `NewTunnel` replied. -/
theorem pathsReplied_of_newTunnel {c : DBusClient} (h : c.ConfigReplied) (path : ObjectPath) :
    PathsReplied { c.push (.call (.newTunnel c.configPath (.ok path))) with
      sessionPath := path.bytes } := by
  obtain ⟨content, p, hmem, hpath⟩ := h
  exact ⟨⟨content, p, List.mem_append_left _ hmem, hpath⟩, path,
    List.mem_append_right _ List.mem_cons_self, rfl⟩

/-- An attempt throws, or goes on with the paths replied, exactly unless the profile
    is imported and the attempts at the session are exhausted. -/
theorem pathsFromReplies_iff (env : Environment) (configFile stateId token remoteIp : Bytes)
    (c : DBusClient) :
    PathsFromReplies (connect env configFile stateId token remoteIp c) ↔
      ¬(env.file.isSome ∧ (∃ p, Answers importRetried env.importConfig p) ∧ Exhausted env) := by
  cases hfile : env.file with
  | none =>
    have hresult : connect env configFile stateId token remoteIp c =
        .error (.threw (lit "Cannot open config file: " ++ configFile)) c := by
      rw [connect, hfile]
      rfl
    rw [hresult]
    exact iff_of_true trivial fun h => by simp at h
  | some text =>
    have hwp := wp_connect_of_steady (c := c) (congrArg (readAndFilterConfig configFile) hfile) stateId
      token remoteIp (steady_true _ _ _) steady_configReplied
      steady_pathsReplied (fun c _ path _ _ => configReplied_of_import c _ path)
      (fun _ _ path _ h => pathsReplied_of_newTunnel h path) trivial
    rw [wp] at hwp
    cases hresult : connect env configFile stateId token remoteIp c with
    | ok a c' =>
      rw [hresult] at hwp
      exact iff_of_true hwp.1 fun h => hwp.2 h.2.2
    | error e c' =>
      rw [hresult] at hwp
      obtain ⟨-, hwaiting, hundefined⟩ := hwp
      -- The attempts that are exhausted use the null reply, which is undefined.
      have hnot : (¬((some text).isSome ∧ (∃ p, Answers importRetried env.importConfig p) ∧
          Exhausted env)) ↔ e ≠ .undefined := by
        rw [ne_eq, hundefined]
        simp
      rw [hnot]
      cases e with
      | threw what => exact iff_of_true trivial (threw_ne_undefined what)
      | undefined => exact iff_of_false id (fun h => h rfl)
      | waiting => exact iff_of_true (hwaiting rfl) (by simp)

/-- The services of the sessions never come up: the path is extracted from nothing. -/
theorem undefined_of_serviceUnknown :
    let unknown : GError := ⟨some (lit "org.freedesktop.DBus.Error.ServiceUnknown"), .empty⟩
    let result := connect { setsUp with newTunnel := fun _ => .error unknown } (lit "vpn.ovpn")
      (lit "sid") (lit "dG9rZW4=") [] {}
    ¬PathsFromReplies result ∧ ∃ c, result = .error .undefined c ∧ c.sessionPath = [] :=
  ⟨id, _, rfl, rfl⟩

end OpenLawsVpn.DBusClient
