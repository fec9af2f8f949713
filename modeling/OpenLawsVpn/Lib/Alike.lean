import OpenLawsVpn.Lib.Wp

/-!
# Programs that look alike

Of a program of the monad `EStateM` an observer sees how it ends, and the state
through a *view* (`seen`). Two programs look alike if the observer sees the same of
them whenever they start in states that have the same view (`Alike`): nothing that the
view hides, in the state or in what makes the programs different, gets through.

There is one rule for each construction of the monad, and one for bounded loops.

* `Alike.bind`, `Alike.get_bind`, `Alike.modify`, `Alike.tryCatch`: the rules;
* `Alike.modify_of_acts`: a change that acts on what is seen looks like itself;
* `Alike.attempts`: a bounded loop looks as its body does;
* `view_endState`: runs that look alike end in states that look alike.
-/

open Wp

universe u v

variable {ε σ α β : Type u} {τ : Type v}

/-- How a program ends, and the view of the state in which it does. -/
def seen (view : σ → τ) : EStateM.Result ε σ α → Except ε α × τ
  | .ok a s => (.ok a, view s)
  | .error e s => (.error e, view s)

/-- The programs look the same from states that do. -/
def Alike (view : σ → τ) (x y : EStateM ε σ α) : Prop :=
  ∀ s t, view s = view t → seen view (x s) = seen view (y t)

/-- Runs that look alike end in states that look alike. -/
theorem view_endState {view : σ → τ} {r r' : EStateM.Result ε σ α} (h : seen view r = seen view r') :
    view (endState r) = view (endState r') := by
  cases r <;> cases r' <;> exact (Prod.mk.inj h).2

namespace Alike

variable {view : σ → τ}

protected theorem pure (a : α) : Alike view (pure a : EStateM ε σ α) (pure a) := fun _ _ h =>
  Prod.ext rfl h

protected theorem throw (e : ε) : Alike view (throw e : EStateM ε σ α) (throw e) := fun _ _ h =>
  Prod.ext rfl h

protected theorem modify {f g : σ → σ} (h : ∀ s t, view s = view t → view (f s) = view (g t)) :
    Alike view (modify f : EStateM ε σ PUnit) (modify g) := fun s t hst =>
  Prod.ext rfl (h s t hst)

/-- A change that acts on what is seen. -/
theorem modify_of_acts {f : σ → σ} {F : τ → τ} (h : ∀ s, view (f s) = F (view s)) :
    Alike view (modify f : EStateM ε σ PUnit) (modify f) :=
  .modify fun s t hst => by rw [h, h, hst]

/-- A change with a result, both of which are read off the view. -/
theorem modifyGet_of_acts {f : σ → α × σ} {F : τ → α × τ}
    (h : ∀ s, ((f s).1, view (f s).2) = F (view s)) :
    Alike view (modifyGet f : EStateM ε σ α) (modifyGet f) := by
  intro s t hst
  have heq : ((f s).1, view (f s).2) = ((f t).1, view (f t).2) := by rw [h, h, hst]
  obtain ⟨h₁, h₂⟩ := Prod.mk.inj heq
  exact Prod.ext (congrArg Except.ok h₁) h₂

/-- One program after another. -/
protected theorem bind {x y : EStateM ε σ α} {f g : α → EStateM ε σ β} (hx : Alike view x y)
    (hf : ∀ a, Alike view (f a) (g a)) : Alike view (x >>= f) (y >>= g) := by
  intro s t hst
  have hseen := hx s t hst
  simp only [Bind.bind, EStateM.bind]
  cases hs : x s <;> cases ht : y t <;> rw [hs, ht] at hseen <;> obtain ⟨h₁, h₂⟩ := Prod.mk.inj hseen
  · obtain rfl := Except.ok.inj h₁
    exact hf _ _ _ h₂
  · cases h₁
  · cases h₁
  · obtain rfl := Except.error.inj h₁
    exact Prod.ext rfl h₂

/-- A program with a handler of its exceptions. -/
protected theorem tryCatch {x y : EStateM ε σ α} {f g : ε → EStateM ε σ α} (hx : Alike view x y)
    (hf : ∀ e, Alike view (f e) (g e)) : Alike view (tryCatch x f) (tryCatch y g) := by
  intro s t hst
  have hseen := hx s t hst
  simp only [MonadExcept.tryCatch, tryCatchThe, MonadExceptOf.tryCatch, EStateM.tryCatch]
  cases hs : x s <;> cases ht : y t <;> rw [hs, ht] at hseen <;> obtain ⟨h₁, h₂⟩ := Prod.mk.inj hseen
  · obtain rfl := Except.ok.inj h₁
    exact Prod.ext rfl h₂
  · cases h₁
  · cases h₁
  · obtain rfl := Except.error.inj h₁
    exact hf _ _ _ h₂

/-- What is read of the state counts only as far as it is seen. -/
theorem get_bind {f g : σ → EStateM ε σ α}
    (h : ∀ s t, view s = view t → Alike view (f s) (g t)) :
    Alike view (get >>= f) (get >>= g) := fun s t hst => h s t hst s t hst

/-- A condition that both programs look at. -/
protected theorem ite {p : Prop} [Decidable p] {x y x' y' : EStateM ε σ α} (hx : p → Alike view x x')
    (hy : ¬p → Alike view y y') : Alike view (if p then x else y) (if p then x' else y') := by
  split_ifs with hp
  · exact hx hp
  · exact hy hp

/-- A bounded loop whose attempts are alike. -/
protected theorem attempts {body body' : ℕ → EStateM ε σ (β ⊕ α)}
    (h : ∀ i, Alike view (body i) (body' i)) (n i : ℕ) (last : Option β) :
    Alike view (attempts body n i last) (attempts body' n i last) := by
  induction n generalizing i last with
  | zero => exact .pure _
  | succ n ih =>
    refine .bind (h i) fun r => ?_
    cases r with
    | inl b => exact ih _ _
    | inr a => exact .pure _

end Alike
