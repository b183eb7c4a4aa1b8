import Mathlib

/-!
# Guarded runs of a transition system

A system is a partial function `next : σ → α → Option σ`: in state `s` the
action `a` either is not enabled or leads to one state. Everything that the
surroundings choose (which process moves, the clock, a drawn identifier) is
part of the action, so the system itself is deterministic and can be executed.

`Run next ok s t` says that `t` is reached from `s` by actions that all meet
the condition `ok` in the state before them. `Always` is the trivial condition.

Results:
* `Run.invariant`: a predicate that every step preserves holds along a run.
* `Run.rel`: a reflexive and transitive relation that every step respects
  relates the two ends of a run.
* `Run.appends`: a list that every step leaves or appends to is extended along a run.
* `Run.exists_change`: if a predicate is false at the start and true at the
  end, some step of the run made it true.
* `Run.simulation`: if every step of one system is a run of another, so is every run.
* `Run.of_exec`: a list of actions that executes is a run.
-/

namespace Runs

variable {σ α : Type*} {next : σ → α → Option σ} {ok ok' : σ → α → Prop} {s t u : σ}

/-- `t` is reached from `s` by steps that all meet `ok`. -/
inductive Run (next : σ → α → Option σ) (ok : σ → α → Prop) (s : σ) : σ → Prop
  | refl : Run next ok s s
  | tail {t u : σ} {a : α} : Run next ok s t → ok t a → next t a = some u → Run next ok s u

/-- No condition on the steps of a run. -/
def Always (_ : σ) (_ : α) : Prop := True

theorem Run.single {a : α} (hok : ok s a) (h : next s a = some t) : Run next ok s t :=
  .tail .refl hok h

theorem Run.trans (h₁ : Run next ok s t) (h₂ : Run next ok t u) : Run next ok s u := by
  induction h₂ with
  | refl => exact h₁
  | tail _ hok hnext ih => exact .tail ih hok hnext

/-- Weakening the condition keeps the run. -/
theorem Run.mono (hle : ∀ s a, ok s a → ok' s a) (h : Run next ok s t) : Run next ok' s t := by
  induction h with
  | refl => exact .refl
  | tail _ hok hnext ih => exact .tail ih (hle _ _ hok) hnext

/-- **Invariant rule.** -/
theorem Run.invariant {P : σ → Prop}
    (hstep : ∀ s a t, P s → ok s a → next s a = some t → P t)
    (h : Run next ok s t) (h₀ : P s) : P t := by
  induction h with
  | refl => exact h₀
  | tail _ hok hnext ih => exact hstep _ _ _ ih hok hnext

/-- **Relation rule.** -/
theorem Run.rel {R : σ → σ → Prop} (hrefl : ∀ s, R s s) (htrans : ∀ s t u, R s t → R t u → R s u)
    (hstep : ∀ s a t, ok s a → next s a = some t → R s t) (h : Run next ok s t) : R s t := by
  induction h with
  | refl => exact hrefl s
  | tail _ hok hnext ih => exact htrans _ _ _ ih (hstep _ _ _ hok hnext)

/-- **Append-only rule.** -/
theorem Run.appends {β : Type*} (col : σ → List β)
    (hstep : ∀ s a t, ok s a → next s a = some t → col s <+: col t) (h : Run next ok s t) :
    col s <+: col t :=
  h.rel (R := fun s t => col s <+: col t) (fun _ => List.prefix_rfl)
    (fun _ _ _ h h' => List.IsPrefix.trans h h') hstep

/-- A predicate that becomes true along a run becomes true in one of its steps. -/
theorem Run.exists_change {P : σ → Prop} (h : Run next ok s t) (h₀ : ¬ P s) (h₁ : P t) :
    ∃ u a v, Run next ok s u ∧ ok u a ∧ next u a = some v ∧ Run next ok v t ∧ ¬ P u ∧ P v := by
  induction h with
  | refl => exact absurd h₁ h₀
  | @tail u v a hrun hok hnext ih =>
    by_cases hu : P u
    · obtain ⟨x, b, y, hx, hb, hnx, hy, hPx, hPy⟩ := ih hu
      exact ⟨x, b, y, hx, hb, hnx, .tail hy hok hnext, hPx, hPy⟩
    · exact ⟨u, a, v, hrun, hok, hnext, .refl, hu, h₁⟩

/-- **Simulation rule.** -/
theorem Run.simulation {τ β : Type*} {next' : τ → β → Option τ} {okay : τ → β → Prop}
    {R : σ → τ → Prop} {x : τ}
    (hstep : ∀ s a t x, R s x → ok s a → next s a = some t → ∃ y, Run next' okay x y ∧ R t y)
    (h : Run next ok s t) (h₀ : R s x) : ∃ y, Run next' okay x y ∧ R t y := by
  induction h with
  | refl => exact ⟨x, .refl, h₀⟩
  | tail _ hok hnext ih =>
    obtain ⟨y, hy, hR⟩ := ih
    obtain ⟨z, hz, hR'⟩ := hstep _ _ _ _ hR hok hnext
    exact ⟨z, hy.trans hz, hR'⟩

/-! ## Execution -/

/-- Take the listed actions in order. -/
def exec (next : σ → α → Option σ) : σ → List α → Option σ
  | s, [] => some s
  | s, a :: as => (next s a).bind (exec next · as)

theorem Run.of_exec {as : List α} (h : exec next s as = some t) : Run next Always s t := by
  induction as generalizing s with
  | nil => cases h; exact .refl
  | cons a as ih =>
    obtain ⟨v, hv, hrest⟩ := Option.bind_eq_some_iff.mp h
    exact (Run.single trivial hv).trans (ih hrest)

/-- A list of actions that can be executed leads to the state it computes. -/
theorem Run.of_exec_isSome {as : List α} (h : (exec next s as).isSome) :
    Run next Always s ((exec next s as).get h) :=
  .of_exec (Option.some_get h).symm

/-- Execution that checks a decidable condition before every action. -/
def execGuarded (next : σ → α → Option σ) (ok : σ → α → Prop) [∀ s a, Decidable (ok s a)] :
    σ → List α → Option σ
  | s, [] => some s
  | s, a :: as => if ok s a then (next s a).bind (execGuarded next ok · as) else none

theorem Run.of_execGuarded [∀ s a, Decidable (ok s a)] {as : List α}
    (h : execGuarded next ok s as = some t) : Run next ok s t := by
  induction as generalizing s with
  | nil => cases h; exact .refl
  | cons a as ih =>
    rw [execGuarded] at h
    split_ifs at h with hok
    obtain ⟨v, hv, hrest⟩ := Option.bind_eq_some_iff.mp h
    exact (Run.single hok hv).trans (ih hrest)

theorem Run.of_execGuarded_isSome [∀ s a, Decidable (ok s a)] {as : List α}
    (h : (execGuarded next ok s as).isSome) : Run next ok s ((execGuarded next ok s as).get h) :=
  .of_execGuarded (Option.some_get h).symm

end Runs
