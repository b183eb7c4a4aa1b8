import BillingEngine.Common.Interleaving

/-!
# Serializable interleavings

A call is a process that reads the shared store for some steps and decides in one
last step, which is the only one that may change the store. `outcome l` is what
a process in local state `l` has decided, and `none` as long as it has not.

`Reads step P sh l₀ l`: on a store that stays `sh` the process gets from `l₀` to
`l`; so what it knows in `l` is what it would read now. `Call` is a process run to
its decision on a store that nobody else changes, and `Serially` a list of such
calls, one after the other.

Results:
* `Run.explains`: if every process, in the step in which it decides, knows
  what it would read now (`Validated`), then the store is the one that the calls
  leave when they run one after the other in the order of their decisions, and
  every process has decided what its call decides there.
* `Run.validated_of_stable`: an assertion for every process that implies its
  reads, and that no step of another one invalidates, makes a run validated.
-/

namespace Interleaving

open Runs

section Calls

variable {ι σ ℓ α ρ : Type*}

/-- Alone on the store `sh`, with inputs that meet `P`, the process comes from
    `l₀` to `l`. -/
inductive Reads (step : α → σ → ℓ → Option (σ × ℓ)) (P : α → Prop) (sh : σ) (l₀ : ℓ) : ℓ → Prop
  | refl : Reads step P sh l₀ l₀
  | tail {l l' : ℓ} {a : α} :
      Reads step P sh l₀ l → P a → step a sh l = some (sh, l') → Reads step P sh l₀ l'

/-- A whole call: the process reads, and its last step leaves the store `sh'`
    and the decision `r`. -/
structure Call (step : α → σ → ℓ → Option (σ × ℓ)) (outcome : ℓ → Option ρ) (P : α → Prop)
    (l₀ : ℓ) (sh sh' : σ) (r : ρ) : Prop where
  decides : ∃ l a l', Reads step P sh l₀ l ∧ P a ∧ step a sh l = some (sh', l') ∧
    outcome l = none ∧ outcome l' = some r

/-- The calls of the list, one after the other. -/
inductive Serially (perform : ι → σ → σ → ρ → Prop) (sh₀ : σ) : List (ι × ρ) → σ → Prop
  | nil : Serially perform sh₀ [] sh₀
  | concat {h : List (ι × ρ)} {sh sh' : σ} {i : ι} {r : ρ} :
      Serially perform sh₀ h sh → perform i sh sh' r → Serially perform sh₀ (h ++ [(i, r)]) sh'

/-- A serial execution of calls is one of any calls that can do the same. -/
theorem Serially.mono {perform perform' : ι → σ → σ → ρ → Prop} {sh₀ sh : σ} {h : List (ι × ρ)}
    (hle : ∀ i sh sh' r, perform i sh sh' r → perform' i sh sh' r)
    (hs : Serially perform sh₀ h sh) : Serially perform' sh₀ h sh := by
  induction hs with
  | nil => exact .nil
  | concat _ hcall ih => exact .concat ih (hle _ _ _ _ hcall)

end Calls

section Runs

variable {ι σ ℓ α ρ : Type*} [DecidableEq ι] {step : α → σ → ℓ → Option (σ × ℓ)}
  {outcome : ℓ → Option ρ} {P : ι → α → Prop} {start : ι → ℓ} {c c' c₀ : Config ι σ ℓ}
  {ok : Config ι σ ℓ → ι × α → Prop}

/-- If the process that moves decides in this step, then it knows what it would
    read now. -/
def Validated (step : α → σ → ℓ → Option (σ × ℓ)) (outcome : ℓ → Option ρ) (P : ι → α → Prop)
    (start : ι → ℓ) (c : Config ι σ ℓ) (a : ι × α) : Prop :=
  ∀ sh' l' r, step a.2 c.shared (c.locals a.1) = some (sh', l') →
    outcome (c.locals a.1) = none → outcome l' = some r →
    P a.1 a.2 ∧ Reads step (P a.1) c.shared (start a.1) (c.locals a.1)

/-- What a serial execution in the order `h` explains of a state. -/
structure Explains (step : α → σ → ℓ → Option (σ × ℓ)) (outcome : ℓ → Option ρ)
    (P : ι → α → Prop) (c₀ : Config ι σ ℓ) (h : List (ι × ρ)) (c : Config ι σ ℓ) : Prop where
  serially : Serially (fun i => Call step outcome (P i) (c₀.locals i)) c₀.shared h c.shared
  nodup : (h.map Prod.fst).Nodup
  decided : ∀ i r, (i, r) ∈ h ↔ outcome (c.locals i) = some r

omit [DecidableEq ι] in
/-- Before any decision nothing has to be explained. -/
theorem Explains.nil (hstart : ∀ i, outcome (c₀.locals i) = none) :
    Explains step outcome P c₀ [] c₀ :=
  ⟨.nil, List.nodup_nil, fun i r => by simp [hstart i]⟩

/-- **Validated runs are serializable.** The order is that of the decisions, so it
    only grows along a run. `hundecided`: a step without a decision leaves the store;
    `hdecided`: a process that has decided leaves the store and keeps to its decision. -/
theorem Run.explains {h : List (ι × ρ)}
    (hundecided : ∀ a sh l sh' l', step a sh l = some (sh', l') → outcome l' = none → sh' = sh)
    (hdecided : ∀ a sh l sh' l' r, step a sh l = some (sh', l') → outcome l = some r →
      sh' = sh ∧ outcome l' = some r)
    (hexp : Explains step outcome P c₀ h c)
    (hrun : Run (next step) (Validated step outcome P c₀.locals) c c') :
    ∃ later, Explains step outcome P c₀ (h ++ later) c' := by
  refine hrun.invariant (P := fun c => ∃ later, Explains step outcome P c₀ (h ++ later) c) ?_
    ⟨[], by rwa [List.append_nil]⟩
  rintro c ⟨i, a⟩ c' ⟨later, hexp⟩ hvalid hnext
  obtain ⟨sh, l, hs, rfl⟩ := next_eq_some.mp hnext
  -- a step that does not change what is decided, nor the store, changes nothing
  have hsame (hsh : sh = c.shared) (hout : outcome l = outcome (c.locals i)) :
      Explains step outcome P c₀ (h ++ later) ⟨sh, Function.update c.locals i l⟩ := by
    refine ⟨hsh ▸ hexp.serially, hexp.nodup, fun j r => (hexp.decided j r).trans ?_⟩
    by_cases hj : j = i
    · subst hj; simp [hout]
    · simp [Function.update_of_ne hj]
  cases hold : outcome (c.locals i) with
  | some r =>
    obtain ⟨hsh, hout⟩ := hdecided _ _ _ _ _ _ hs hold
    exact ⟨later, hsame hsh (hout.trans hold.symm)⟩
  | none =>
    cases hnew : outcome l with
    | none => exact ⟨later, hsame (hundecided _ _ _ _ _ hs hnew) (hnew.trans hold.symm)⟩
    | some r =>
      obtain ⟨hP, hreads⟩ := hvalid sh l r hs hold hnew
      have hfresh : i ∉ (h ++ later).map Prod.fst := by
        intro hmem
        obtain ⟨⟨j, r'⟩, hmem, hj : j = i⟩ := List.mem_map.mp hmem
        rw [hj, hexp.decided, hold] at hmem
        cases hmem
      refine ⟨later ++ [(i, r)], ?_⟩
      rw [← List.append_assoc]
      refine ⟨.concat hexp.serially ⟨_, a, l, hreads, hP, hs, hold, hnew⟩, ?_, ?_⟩
      · rw [List.map_append, List.nodup_append']
        exact ⟨hexp.nodup, List.nodup_singleton _, by simpa using hfresh⟩
      · intro j r'
        rw [List.mem_append, hexp.decided, List.mem_singleton]
        by_cases hj : j = i
        · subst hj; simp [hold, hnew, eq_comm]
        · simp [hj]

/-- **Stable assertions validate.** `L i` is the assertion of process `i`: it implies
    the reads, the process's own step keeps it until the decision, and no step of
    another process invalidates it. -/
theorem Run.validated_of_stable {L : ι → σ → ℓ → Prop}
    (hreads : ∀ i sh l, L i sh l → outcome l = none → Reads step (P i) sh (start i) l)
    (hstep : ∀ c i a sh l, (∀ j, L j c.shared (c.locals j)) → ok c (i, a) →
      step a c.shared (c.locals i) = some (sh, l) →
      P i a ∧ L i sh l ∧ ∀ j, j ≠ i → L j sh (c.locals j))
    (hrun : Run (next step) ok c₀ c) (hL : ∀ j, L j c₀.shared (c₀.locals j)) :
    Run (next step) (Validated step outcome P start) c₀ c ∧ ∀ j, L j c.shared (c.locals j) := by
  induction hrun with
  | refl => exact ⟨.refl, hL⟩
  | @tail c c' a hrun hok hnext ih =>
    obtain ⟨hvalid, hL'⟩ := ih
    obtain ⟨i, a⟩ := a
    obtain ⟨sh, l, hs, rfl⟩ := next_eq_some.mp hnext
    obtain ⟨hP, hown, hothers⟩ := hstep c i a sh l hL' hok hs
    refine ⟨.tail hvalid (fun _ _ _ _ hold _ => ⟨hP, hreads i _ _ (hL' i) hold⟩) hnext, fun j => ?_⟩
    by_cases hj : j = i
    · subst hj; simpa using hown
    · simpa [Function.update_of_ne hj] using hothers j hj

end Runs

end Interleaving
