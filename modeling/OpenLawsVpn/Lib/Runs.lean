import Mathlib.Data.List.Forall2
import Mathlib.Data.List.Infix

/-!
# Runs of a partial step

A step may not be possible in a state, and then a run stops there (`run`). A
condition on the steps of a run is asked for those only that are possible, each in
the state before it (`Along`).

If a step from a state of an invariant leads to one exactly if it meets a condition,
then the invariant holds in every state reached in a run exactly if all steps of the
run meet the condition (`reached_iff`, and `reached_iff_of` for runs of which something
is assumed).

* `run_append`: a run of two parts;
* `reached_word`: an invariant of a state together with the steps that led to it;
* `map_run`: alike steps keep states alike;
* `reached_iff`, `reached_iff_of`: an invariant in every state, against a condition on the steps.
-/

namespace Runs

variable {σ ι : Type*} (step : σ → ι → Option σ)

/-- The state after the steps, if they are possible. -/
def run : σ → List ι → Option σ
  | s, [] => some s
  | s, a :: as => (step s a).bind fun s' => run s' as

/-- Every step meets the condition, as far as they are possible. -/
def Along (C : σ → ι → Prop) : σ → List ι → Prop
  | _, [] => True
  | s, a :: as => ∀ s', step s a = some s' → C s a ∧ Along C s' as

variable {step} {C : σ → ι → Prop} {P : σ → Prop}

/-- A run of two parts. -/
theorem run_append (s : σ) (as bs : List ι) :
    run step s (as ++ bs) = (run step s as).bind fun s' => run step s' bs := by
  induction as generalizing s with
  | nil => rfl
  | cons a as ih =>
    rw [List.cons_append, run, run, Option.bind_assoc]
    exact Option.bind_congr fun s' _ => ih s'

/-- An invariant holds in the state reached. -/
theorem reached (hstep : ∀ {s a s'}, P s → step s a = some s' → P s') {s s' : σ} (hs : P s)
    {as : List ι} (h : run step s as = some s') : P s' := by
  induction as generalizing s with
  | nil => exact Option.some.inj h ▸ hs
  | cons a as ih =>
    obtain ⟨s'', ha, h⟩ := Option.bind_eq_some_iff.1 h
    exact ih (hstep hs ha) h

/-- An invariant of the steps taken and the state that they lead to. -/
theorem reached_word {Q : List ι → σ → Prop} {s₀ : σ} (hnil : Q [] s₀)
    (hstep : ∀ {as s a s'}, Q as s → step s a = some s' → Q (as ++ [a]) s') {as : List ι} {s : σ}
    (h : run step s₀ as = some s) : Q as s := by
  induction as using List.reverseRecOn generalizing s with
  | nil => exact Option.some.inj h ▸ hnil
  | append_singleton as a ih =>
    rw [run_append] at h
    obtain ⟨s', has, h⟩ := Option.bind_eq_some_iff.1 h
    obtain ⟨s'', ha, h⟩ := Option.bind_eq_some_iff.1 h
    exact Option.some.inj h ▸ hstep (ih has) ha

/-- Runs look alike if their steps are alike, and alike steps keep states alike. -/
theorem map_run {τ : Type*} {view : σ → τ} {R : ι → ι → Prop}
    (hstep : ∀ {s t a b}, view s = view t → R a b → (step s a).map view = (step t b).map view)
    {s t : σ} (hst : view s = view t) {as bs : List ι} (h : List.Forall₂ R as bs) :
    (run step s as).map view = (run step t bs).map view := by
  induction h generalizing s t with
  | nil => exact congrArg some hst
  | @cons a b as bs hab _ ih =>
    have hview := hstep hst hab
    rw [run, run]
    cases hs : step s a <;> cases ht : step t b <;> rw [hs, ht] at hview
    · rfl
    · cases hview
    · cases hview
    · exact ih (Option.some_inj.1 hview)

/-- In a run whose steps are all as assumed, a property holds in every state reached if
    it is kept by such steps exactly if these meet the condition. -/
theorem reached_iff_of {D : σ → ι → Prop}
    (hstep : ∀ {s a s'}, P s → D s a → step s a = some s' → (P s' ↔ C s a)) {s : σ} (hs : P s)
    {as : List ι} (hD : Along step D s as) :
    (∀ pre, pre <+: as → ∀ s', run step s pre = some s' → P s') ↔ Along step C s as := by
  induction as generalizing s with
  | nil =>
    refine iff_of_true (fun pre hpre s' hrun => ?_) trivial
    obtain rfl := List.prefix_nil.1 hpre
    exact Option.some.inj hrun ▸ hs
  | cons a as ih =>
    -- The state after the first step is reached by a prefix of one step.
    constructor
    · intro hall s' ha
      obtain ⟨hDa, hD'⟩ := hD s' ha
      have hs' : P s' := by
        refine hall [a] (List.cons_prefix_cons.2 ⟨rfl, List.nil_prefix⟩) s' ?_
        rw [run, ha, Option.bind_some, run]
      refine ⟨(hstep hs hDa ha).1 hs', (ih hs' hD').1 fun pre hpre s'' hrun => ?_⟩
      refine hall (a :: pre) (List.cons_prefix_cons.2 ⟨rfl, hpre⟩) s'' ?_
      rw [run, ha, Option.bind_some, hrun]
    · intro halong pre hpre s'' hrun
      cases pre with
      | nil => exact Option.some.inj hrun ▸ hs
      | cons a' pre =>
        obtain ⟨rfl, hpre'⟩ := List.cons_prefix_cons.1 hpre
        rw [run] at hrun
        obtain ⟨s', ha, hrun⟩ := Option.bind_eq_some_iff.1 hrun
        obtain ⟨hDa, hD'⟩ := hD s' ha
        obtain ⟨hC, halong⟩ := halong s' ha
        exact (ih ((hstep hs hDa ha).2 hC) hD').2 halong pre hpre' s'' hrun

theorem along_true {s : σ} (as : List ι) : Along step (fun _ _ => True) s as := by
  induction as generalizing s with
  | nil => trivial
  | cons a as ih => exact fun s' _ => ⟨trivial, ih⟩

/-- A property holds in every state reached if it is kept by the steps exactly if these
    meet the condition. -/
theorem reached_iff (hstep : ∀ {s a s'}, P s → step s a = some s' → (P s' ↔ C s a)) {s : σ}
    (hs : P s) {as : List ι} :
    (∀ pre, pre <+: as → ∀ s', run step s pre = some s' → P s') ↔ Along step C s as :=
  reached_iff_of (fun hs _ ha => hstep hs ha) hs (along_true as)

end Runs
