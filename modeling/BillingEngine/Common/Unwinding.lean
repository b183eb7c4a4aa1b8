import Mathlib

/-!
# Unwinding

A system answers every action, `step s a = (t, w)`. An observer sees the answers to
some of the actions, and the other actions should not matter to it: taken away from a
run they leave what the observer sees as it was. Two obligations about single steps
are enough: an action that is taken away is not noticed, and an action that stays does
the same in two states which the observer cannot tell apart.

Results:
* `Unwinds.purge`: so it is along every run whose steps meet their conditions.
-/

namespace Unwinding

variable {σ α ω : Type*}

/-- The state after the actions. -/
def after (step : σ → α → σ × ω) : σ → List α → σ
  | s, [] => s
  | s, a :: as => after step (step s a).1 as

/-- The answers to the actions that are observed, in order. -/
def answers (step : σ → α → σ × ω) (observed : α → Bool) : σ → List α → List ω
  | _, [] => []
  | s, a :: as =>
    if observed a then (step s a).2 :: answers step observed (step s a).1 as
    else answers step observed (step s a).1 as

/-- Every action meets the condition in the state in which it is taken. -/
def Guarded (step : σ → α → σ × ω) (ok : σ → α → Prop) : σ → List α → Prop
  | _, [] => True
  | s, a :: as => ok s a ∧ Guarded step ok (step s a).1 as

instance decidableGuarded (step : σ → α → σ × ω) (ok : σ → α → Prop)
    [∀ s a, Decidable (ok s a)] : ∀ (s : σ) (as : List α), Decidable (Guarded step ok s as)
  | _, [] => inferInstanceAs (Decidable True)
  | s, a :: as =>
    have := decidableGuarded step ok (step s a).1 as
    inferInstanceAs (Decidable (ok s a ∧ Guarded step ok (step s a).1 as))

/-- A condition on the actions alone may be added. -/
theorem Guarded.and {step : σ → α → σ × ω} {ok : σ → α → Prop} {p : α → Prop} {as : List α} :
    ∀ {s : σ}, Guarded step ok s as → (∀ a ∈ as, p a) →
      Guarded step (fun s a => ok s a ∧ p a) s as := by
  induction as with
  | nil => exact fun _ _ => trivial
  | cons a as ih =>
    rintro s ⟨hok, hrest⟩ hp
    rw [List.forall_mem_cons] at hp
    exact ⟨⟨hok, hp.1⟩, ih hrest hp.2⟩

/-- `R` relates states that the observer cannot tell apart. -/
structure Unwinds (step : σ → α → σ × ω) (ok : σ → α → Prop) (kept observed : α → Bool)
    (R : σ → σ → Prop) : Prop where
  /-- an action that is taken away -/
  local_respect : ∀ {s a t}, R s t → ok s a → kept a = false → R (step s a).1 t
  /-- an action that stays -/
  step_consistent : ∀ {s a t}, R s t → ok s a → kept a = true →
    R (step s a).1 (step t a).1 ∧ (observed a = true → (step s a).2 = (step t a).2)
  /-- what is observed stays -/
  kept_of_observed : ∀ {a}, observed a = true → kept a = true

/-- **Unwinding.** The observer cannot tell a run from what is left of it when the
    actions that do not concern the observer are taken away. -/
theorem Unwinds.purge {step : σ → α → σ × ω} {ok : σ → α → Prop} {kept observed : α → Bool}
    {R : σ → σ → Prop} (h : Unwinds step ok kept observed R) (as : List α) :
    ∀ {s t : σ}, R s t → Guarded step ok s as →
      R (after step s as) (after step t (as.filter kept)) ∧
        answers step observed s as = answers step observed t (as.filter kept) := by
  induction as with
  | nil => exact fun hR _ => ⟨hR, rfl⟩
  | cons a as ih =>
    rintro s t hR ⟨hok, hguarded⟩
    cases hkept : kept a with
    | true =>
      obtain ⟨hR', hanswer⟩ := h.step_consistent hR hok hkept
      obtain ⟨hend, hrest⟩ := ih hR' hguarded
      rw [List.filter_cons_of_pos hkept]
      refine ⟨hend, ?_⟩
      rw [answers, answers, hrest]
      by_cases hseen : observed a = true
      · rw [if_pos hseen, if_pos hseen, hanswer hseen]
      · rw [if_neg hseen, if_neg hseen]
    | false =>
      have hseen : ¬ observed a = true := fun hseen => by
        rw [h.kept_of_observed hseen] at hkept
        cases hkept
      rw [List.filter_cons_of_neg (by simp [hkept]), answers, if_neg hseen]
      exact ih (h.local_respect hR hok hkept) hguarded

end Unwinding
