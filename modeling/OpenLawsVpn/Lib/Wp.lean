import Mathlib.Algebra.Order.Group.Nat

/-!
# Weakest preconditions

Code that changes a state and may throw is a program of the monad `EStateM`, in
which an exception keeps the state in which it was thrown. The weakest
precondition `wp x post exn` of a program is the condition on the initial state
under which it either returns in `post`, or throws in `exn`.

The rules for the constructions of the monad are equivalences (the simp set of
`wp`), so that the precondition of a straight program is computed. A bounded
loop (`attempts`) has an invariant (`wp_attempts`).

* `wp_bind`, `wp_tryCatch`, `wp_modify`, `wp_get`: the rules, as equivalences;
* `wp_mono`, `wp_and`: what is established can be weakened, and taken together;
* `post_of_wp`, `exn_of_wp`, `endState_of_wp`: what it says about a run;
* `wp_attempts`: the rule of the bounded loop.
-/

namespace Wp

universe u

variable {ε σ α β : Type u}

/-- The weakest precondition of `x`: it returns in `post`, or throws in `exn`. -/
def wp (x : EStateM ε σ α) (post : α → σ → Prop) (exn : ε → σ → Prop) (s : σ) : Prop :=
  match x s with
  | .ok a s' => post a s'
  | .error e s' => exn e s'

variable {post : α → σ → Prop} {exn : ε → σ → Prop} {s : σ}

@[simp] theorem wp_pure (a : α) : wp (pure a) post exn s ↔ post a s := Iff.rfl

@[simp] theorem wp_get {post : σ → σ → Prop} : wp get post exn s ↔ post s s := Iff.rfl

@[simp] theorem wp_modify {post : PUnit → σ → Prop} (f : σ → σ) :
    wp (modify f) post exn s ↔ post ⟨⟩ (f s) := Iff.rfl

@[simp] theorem wp_modifyGet (f : σ → α × σ) :
    wp (modifyGet f : EStateM ε σ α) post exn s ↔ post (f s).1 (f s).2 := Iff.rfl

@[simp] theorem wp_bind (x : EStateM ε σ α) (f : α → EStateM ε σ β) {post : β → σ → Prop} :
    wp (x >>= f) post exn s ↔ wp x (fun a s => wp (f a) post exn s) exn s := by
  simp only [wp, bind, EStateM.bind]
  cases x s <;> rfl

@[simp] theorem wp_ite (p : Prop) [Decidable p] (x y : EStateM ε σ α) :
    wp (if p then x else y) post exn s ↔ if p then wp x post exn s else wp y post exn s := by
  split_ifs <;> rfl

@[simp] theorem wp_throw (e : ε) : wp (throw e : EStateM ε σ α) post exn s ↔ exn e s := Iff.rfl

/-- The handler runs in the state in which the exception was thrown. -/
@[simp] theorem wp_tryCatch (x : EStateM ε σ α) (handler : ε → EStateM ε σ α) :
    wp (tryCatch x handler) post exn s ↔ wp x post (fun e s => wp (handler e) post exn s) s := by
  simp only [wp, tryCatch, tryCatchThe, MonadExceptOf.tryCatch, EStateM.tryCatch]
  cases x s <;> rfl

theorem wp_true (x : EStateM ε σ α) (s : σ) : wp x (fun _ _ => True) (fun _ _ => True) s := by
  rw [wp]
  cases x s <;> trivial

/-- What is established can be weakened. -/
theorem wp_mono {x : EStateM ε σ α} {post' : α → σ → Prop} {exn' : ε → σ → Prop}
    (h : wp x post exn s) (hpost : ∀ a s, post a s → post' a s)
    (hexn : ∀ e s, exn e s → exn' e s) : wp x post' exn' s := by
  rw [wp] at h ⊢
  cases hx : x s with
  | ok a s' => exact hpost a s' (by simpa only [hx] using h)
  | error e s' => exact hexn e s' (by simpa only [hx] using h)

/-- Two properties are established together. -/
theorem wp_and {x : EStateM ε σ α} {post' : α → σ → Prop} {exn' : ε → σ → Prop}
    (h : wp x post exn s) (h' : wp x post' exn' s) :
    wp x (fun a s => post a s ∧ post' a s) (fun e s => exn e s ∧ exn' e s) s := by
  rw [wp] at h h' ⊢
  cases hx : x s <;> simp only [hx] at h h' <;> exact ⟨h, h'⟩

/-- What is established holds of a run that returns. -/
theorem post_of_wp {x : EStateM ε σ α} (h : wp x post exn s) {a : α} {s' : σ}
    (hx : x s = .ok a s') : post a s' := by
  simpa only [wp, hx] using h

/-- What is established holds of a run that throws. -/
theorem exn_of_wp {x : EStateM ε σ α} (h : wp x post exn s) {e : ε} {s' : σ}
    (hx : x s = .error e s') : exn e s' := by
  simpa only [wp, hx] using h

/-- The state in which a program ends. -/
def endState : EStateM.Result ε σ α → σ
  | .ok _ s => s
  | .error _ s => s

/-- A property of the state that holds however the program ends. -/
theorem endState_of_wp {x : EStateM ε σ α} {P : σ → Prop}
    (h : wp x (fun _ s => P s) (fun _ s => P s) s) : P (endState (x s)) := by
  rw [wp] at h
  cases hx : x s <;> simpa only [hx, endState] using h

/-! ## Bounded loops -/

/-- At most `n` attempts, the next one being number `i`: the body succeeds with
    a value, or fails with one. The loop ends with the value of the first
    success, or with the value of the last failure (`last`, without attempts). -/
def attempts (body : ℕ → EStateM ε σ (β ⊕ α)) : ℕ → ℕ → Option β → EStateM ε σ (Option β ⊕ α)
  | 0, _, last => pure (.inl last)
  | n + 1, i, _ => do
    match ← body i with
    | .inr a => pure (.inr a)
    | .inl b => attempts body n (i + 1) (some b)

/-- The rule of the loop: an invariant of the number of attempts and of the last
    failure. -/
theorem wp_attempts {body : ℕ → EStateM ε σ (β ⊕ α)} (inv : ℕ → Option β → σ → Prop) {n i : ℕ}
    {last : Option β} {post : Option β ⊕ α → σ → Prop}
    (hbody : ∀ j l s, j < i + n → inv j l s →
      wp (body j) (fun r s => r.elim (fun b => inv (j + 1) (some b) s) fun a => post (.inr a) s)
        exn s)
    (hend : ∀ l s, inv (i + n) l s → post (.inl l) s) (h : inv i last s) :
    wp (attempts body n i last) post exn s := by
  induction n generalizing i last s with
  | zero => exact hend last s h
  | succ n ih =>
    rw [attempts, wp_bind]
    refine wp_mono (hbody i last s (by omega) h) (fun r s hr => ?_) fun _ _ he => he
    cases r with
    | inl b =>
      refine ih (fun j l s hj => hbody j l s (by omega)) (fun l s hl => hend l s ?_) hr
      rwa [Nat.add_right_comm] at hl
    | inr a => exact hr

end Wp
