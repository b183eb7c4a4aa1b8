import Mathlib

/-!
# Traces of a system that answers

A system takes an input, moves and gives an answer; `step s a w t` says that in state
`s` the input `a` may be answered `w` and lead to `t`. A trace is the list of inputs
and answers of a run, which is all that the outside sees of it.

Results:
* `Trace.trans`: traces one after the other.
* `Trace.refines`: if every step of one system can be answered in the same way by
  another one, every trace of the first is a trace of the second.
* `Trace.of_answer`: a list of inputs that is answered gives a trace.
-/

namespace Traces

variable {σ τ α ω : Type*} {step : σ → α → ω → σ → Prop} {s t u : σ} {ws ws' : List (α × ω)}

/-- `t` is reached from `s` with these inputs and answers. -/
inductive Trace (step : σ → α → ω → σ → Prop) (s : σ) : List (α × ω) → σ → Prop
  | nil : Trace step s [] s
  | concat {ws : List (α × ω)} {t u : σ} {a : α} {w : ω} :
      Trace step s ws t → step t a w u → Trace step s (ws ++ [(a, w)]) u

theorem Trace.single {a : α} {w : ω} (h : step s a w t) : Trace step s [(a, w)] t :=
  .concat .nil h

theorem Trace.trans (h : Trace step s ws t) (h' : Trace step t ws' u) :
    Trace step s (ws ++ ws') u := by
  induction h' with
  | nil => rw [List.append_nil]; exact h
  | concat _ hstep ih => rw [← List.append_assoc]; exact .concat ih hstep

/-- **Refinement rule.** `R` relates the states of the two systems. -/
theorem Trace.refines {step' : τ → α → ω → τ → Prop} {R : σ → τ → Prop} {x : τ}
    (hstep : ∀ s a w t x, R s x → step s a w t → ∃ y, step' x a w y ∧ R t y)
    (h : Trace step s ws t) (h₀ : R s x) : ∃ y, Trace step' x ws y ∧ R t y := by
  induction h with
  | nil => exact ⟨x, .nil, h₀⟩
  | concat _ hs ih =>
    obtain ⟨y, hy, hR⟩ := ih
    obtain ⟨z, hz, hR'⟩ := hstep _ _ _ _ _ hR hs
    exact ⟨z, .concat hy hz, hR'⟩

/-! ## Execution -/

/-- Give the inputs in order, and collect the answers. -/
def answer (next : σ → α → Option (σ × ω)) : σ → List α → Option (List (α × ω) × σ)
  | s, [] => some ([], s)
  | s, a :: as =>
    (next s a).bind fun (t, w) => (answer next t as).map fun (ws, u) => ((a, w) :: ws, u)

theorem Trace.of_answer {next : σ → α → Option (σ × ω)}
    (hnext : ∀ s a t w, next s a = some (t, w) → step s a w t) {as : List α}
    (h : answer next s as = some (ws, t)) : Trace step s ws t := by
  induction as generalizing s ws with
  | nil =>
    obtain ⟨rfl, rfl⟩ := Prod.mk.inj (Option.some.inj h)
    exact .nil
  | cons a as ih =>
    rw [answer] at h
    obtain ⟨⟨v, w⟩, hv, hrest⟩ := Option.bind_eq_some_iff.mp h
    obtain ⟨⟨ws', u⟩, hws, heq⟩ := Option.map_eq_some_iff.mp hrest
    obtain ⟨rfl, rfl⟩ := Prod.mk.inj heq
    exact (Trace.single (hnext _ _ _ _ hv)).trans (ih hws)

theorem Trace.of_answer_isSome {next : σ → α → Option (σ × ω)}
    (hnext : ∀ s a t w, next s a = some (t, w) → step s a w t) {as : List α}
    (h : (answer next s as).isSome) :
    Trace step s ((answer next s as).get h).1 ((answer next s as).get h).2 :=
  .of_answer hnext (Option.some_get h).symm

end Traces
