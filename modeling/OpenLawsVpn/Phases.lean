import OpenLawsVpn.Core.Verdict
import OpenLawsVpn.Failure

/-!
# What the phases result in

The result of Phase 1 is the last challenge that arrived (`Phase1Environment.Challenges`).
There is one exactly if the profile is read and accepted, a challenge arrives, and no failure
(`wp_connectPhase1_returns`); and Phase 2 returns in direct mode exactly if the profile is
read and the core is connected before it fails (`wp_connectPhase2_returns`).

* `Phase1Environment.Challenges`, `Phase1Environment.Provokes`, `Phase2Environment.Connects`: the
  conditions on what the core delivers, as structures with one field each part;
* `Started.wp_await_challenge`, `Started.wp_await_returns`: the two waits, by what was delivered;
* `wp_connectPhase1_challenge`: what a Phase 1 that returns results in;
* `wp_connectPhase1_returns`, `wp_connectPhase2_returns`: when the phases return.
-/

namespace OpenLawsVpn

open Wp

/-- Phase 1 results in the last challenge that arrived, and the last address, and the attempt
    did not fail. -/
structure Phase1Environment.Challenges (env : Phase1Environment) (result : Challenge) : Prop where
  challenge : (challenges env.inputs).getLast? = some (result.stateId, result.samlUrl)
  address : (addresses env.inputs).getLastD [] = result.remoteIp
  notFailed : ¬Failed env.inputs

/-- Phase 1 has a profile to connect with, a challenge arrives, and no failure. -/
structure Phase1Environment.Provokes (env : Phase1Environment) : Prop where
  file : env.file.isSome
  accepted : env.evalError = none
  challenged : challenges env.inputs ≠ []
  notFailed : ¬Failed env.inputs

/-- Phase 2 has a profile to connect with, and is connected before it fails. -/
structure Phase2Environment.Connects (env : Phase2Environment) : Prop where
  file : env.file.isSome
  connected : firstVerdict env.inputs = some (lit "CONNECTED")

namespace OpenVPNClient

variable {settings : Settings} {c₀ c : OpenVPNClient} {inputs : List CoreInput}

/-- The wait for the challenge returns what the core named last, if it did not fail. -/
theorem Started.wp_await_challenge (h : Started c₀ inputs c) :
    wp (await CoreClient.waitForSaml)
      (fun result _ => (challenges inputs).getLast? = some (result.stateId, result.samlUrl) ∧
        (addresses inputs).getLastD [] = result.remoteIp ∧ ¬Failed inputs)
      (fun _ _ => True) c := by
  obtain ⟨core, hcore, hrecorded⟩ := h.core
  rw [await, wp_bind, wp_get, hcore]
  dsimp only
  cases hwait : core.waitForSaml with
  | error what => trivial
  | ok result =>
    obtain ⟨hfailed, hne, hchallenge, haddress⟩ := hrecorded.waitForSaml_eq_ok_iff.1 hwait
    refine ⟨?_, haddress, hfailed⟩
    rw [List.getLastD_eq_getLast?] at hchallenge
    cases hlast : (challenges inputs).getLast? with
    | none => exact absurd (List.getLast?_eq_none_iff.1 hlast) hne
    | some p =>
      rw [hlast] at hchallenge
      exact congrArg some hchallenge

/-- The wait of a core client that was started, by what was delivered to it. -/
theorem Started.wp_await_returns {α : Type} (h : Started c₀ inputs c)
    {wait : CoreClient → Except Bytes α} {Returns : Prop}
    (hwait : ∀ core, Recorded inputs core → ((∃ a, wait core = .ok a) ↔ Returns)) :
    wp (await wait) (fun _ _ => Returns) (fun _ _ => ¬Returns) c := by
  obtain ⟨core, hcore, hrecorded⟩ := h.core
  rw [← hwait core hrecorded, await, wp_bind, wp_get, hcore]
  dsimp only
  cases wait core with
  | ok a => exact ⟨a, rfl⟩
  | error what => simp

/-- Phase 1 results in the last challenge and the last address. -/
theorem wp_connectPhase1_challenge (settings : Settings) (env : Phase1Environment)
    (c : OpenVPNClient) :
    wp (connectPhase1 settings env) (fun result _ => env.Challenges result)
      (fun _ _ => True) c := by
  simp only [connectPhase1, wp_bind, wp_modify, wp_get]
  cases hfile : env.file with
  | none => trivial
  | some content =>
    simp only [readAndFilterConfig, wp_bind, wp_modify]
    cases env.evalError with
    | some message => trivial
    | none =>
      simp only [wp_bind, wp_modify]
      have h := prepared_makeCore c
      suffices hstarted : Started c env.inputs _ from
        wp_mono hstarted.wp_await_challenge (fun _ _ h => ⟨h.1, h.2.1, h.2.2⟩) fun _ _ _ => trivial
      refine Started.deliverAll (Prepared.start ?_) settings env.inputs
      exact ((h.push (by simp) (by simp)).push (by simp) (by simp)).cout settings _

/-- Phase 1 returns exactly if the core is provoked to name a challenge. -/
theorem wp_connectPhase1_returns (env : Phase1Environment) :
    wp (connectPhase1 settings env) (fun _ _ => env.Provokes) (fun _ _ => ¬env.Provokes) c := by
  simp only [connectPhase1, wp_bind, wp_modify, wp_get]
  have h := prepared_makeCore c
  cases hfile : env.file with
  | none => exact fun h => by simpa [hfile] using h.file
  | some content =>
    simp only [readAndFilterConfig, wp_bind, wp_modify]
    cases herror : env.evalError with
    | some message => exact fun h => by simpa [herror] using h.accepted
    | none =>
      simp only [wp_bind, wp_modify]
      suffices hstarted : Started c env.inputs _ from
        wp_mono (hstarted.wp_await_returns fun core => waitForSaml_returns_iff)
          (fun _ _ h => ⟨hfile ▸ rfl, herror, h.1, h.2⟩)
          fun _ _ h hprovokes => h ⟨hprovokes.challenged, hprovokes.notFailed⟩
      refine Started.deliverAll (Prepared.start ?_) settings env.inputs
      exact ((h.push (by simp) (by simp)).push (by simp) (by simp)).cout settings _

/-- Phase 2 of direct mode returns exactly if the core connects. -/
theorem wp_connectDirect_returns (stateId token remoteIp : Bytes) (env : Phase2Environment) :
    wp (connectDirect settings stateId token remoteIp env) (fun _ _ => env.Connects)
      (fun _ _ => ¬env.Connects) c := by
  simp only [connectDirect, wp_bind, wp_modify, wp_get]
  have h := prepared_makeCore c
  cases hfile : env.file with
  | none => exact fun h => by simpa [hfile] using h.file
  | some content =>
    simp only [readAndFilterConfig, wp_bind, wp_modify]
    suffices hstarted : Started c env.inputs _ from
      wp_mono
        (hstarted.wp_await_returns fun _ h => (exists_const Unit).trans h.waitForConnected_iff)
        (fun _ _ h => ⟨hfile ▸ rfl, h⟩) fun _ _ h hconnects => h hconnects.connected
    refine Started.deliverAll (Started.cout (Prepared.start ?_) settings _) settings env.inputs
    exact ((((h.noteRemoteIp settings remoteIp).push (by simp) (by simp)).cout settings _).cout
      settings _).push (by simp) (by simp)

theorem wp_connectPhase2_returns (hmode : c.mode = .direct) (stateId token remoteIp : Bytes)
    (env : Phase2Environment) :
    wp (connectPhase2 settings stateId token remoteIp env) (fun _ _ => env.Connects)
      (fun _ _ => ¬env.Connects) c := by
  rw [connectPhase2, wp_bind, wp_get, hmode]
  exact wp_connectDirect_returns stateId token remoteIp env

end OpenVPNClient

end OpenLawsVpn
