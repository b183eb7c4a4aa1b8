import BillingEngine.Common.Runs

/-!
# Interleaved processes over a shared store

Any number of processes, indexed by a type `ι` of any size, take atomic steps
on one shared store. A process is its local state; `step a σ l` is the effect of
the atomic step that a process in local state `l` takes with the outside input
`a`, and is `none` when the process has ended.

`Run.assertions` is the proof rule used for all concurrent programs: a global
invariant on the store and one assertion for each process, where a step has to
re-establish the invariant, the moving process's own assertion, and (freedom
from interference) the assertions of all the others. `Run.assertions_of_rely`
is the special case in which interference is bounded by a relation on stores,
and `Run.locals_of_stuck` says that a process that has ended stays as it is.

`Run.nodup_of_alone` is the rule for processes that look a key up and insert it in
a later step when it was not there: without a lock the keys stay unique as long as
no two processes are between the two steps for one key.
-/

namespace Interleaving

open Runs

/-- One shared store and the local state of every process. -/
structure Config (ι σ ℓ : Type*) where
  shared : σ
  locals : ι → ℓ

variable {ι σ ℓ α : Type*} [DecidableEq ι]

/-- Process `i` takes one atomic step with input `a`. -/
def next (step : α → σ → ℓ → Option (σ × ℓ)) (c : Config ι σ ℓ) : ι × α → Option (Config ι σ ℓ)
  | (i, a) => (step a c.shared (c.locals i)).map fun r =>
      { shared := r.1, locals := Function.update c.locals i r.2 }

variable {step : α → σ → ℓ → Option (σ × ℓ)} {c c' c₀ : Config ι σ ℓ} {i : ι} {a : α}

theorem next_eq_some : next step c (i, a) = some c' ↔
    ∃ sh l, step a c.shared (c.locals i) = some (sh, l) ∧
      c' = { shared := sh, locals := Function.update c.locals i l } := by
  simp only [next, Option.map_eq_some_iff, Prod.exists]
  constructor
  · rintro ⟨sh, l, h, rfl⟩; exact ⟨sh, l, h, rfl⟩
  · rintro ⟨sh, l, h, rfl⟩; exact ⟨sh, l, h, rfl⟩

/-- **Rule for interleaved processes.** `G` is the invariant of the store and
    `L i` the assertion of process `i`. -/
theorem Run.assertions {ok : Config ι σ ℓ → ι × α → Prop} {G : σ → Prop} {L : ι → σ → ℓ → Prop}
    (hstep : ∀ c i a sh l, G c.shared → (∀ j, L j c.shared (c.locals j)) → ok c (i, a) →
      step a c.shared (c.locals i) = some (sh, l) →
      G sh ∧ L i sh l ∧ ∀ j, j ≠ i → L j sh (c.locals j))
    (hrun : Run (next step) ok c₀ c) (hG : G c₀.shared) (hL : ∀ j, L j c₀.shared (c₀.locals j)) :
    G c.shared ∧ ∀ j, L j c.shared (c.locals j) := by
  refine hrun.invariant (P := fun c => G c.shared ∧ ∀ j, L j c.shared (c.locals j)) ?_ ⟨hG, hL⟩
  rintro c ⟨i, a⟩ c' ⟨hG, hL⟩ hok hnext
  obtain ⟨sh, l, hs, rfl⟩ := next_eq_some.mp hnext
  obtain ⟨hG', hown, hothers⟩ := hstep c i a sh l hG hL hok hs
  refine ⟨hG', fun j => ?_⟩
  by_cases hj : j = i
  · subst hj; simpa using hown
  · simpa [Function.update_of_ne hj] using hothers j hj

/-- The rule with a rely relation: every step respects `R`, and every
    assertion is stable under `R`. -/
theorem Run.assertions_of_rely {ok : Config ι σ ℓ → ι × α → Prop} {G : σ → Prop}
    {L : σ → ℓ → Prop} {R : σ → σ → Prop}
    (hstep : ∀ c i a sh l, G c.shared → L c.shared (c.locals i) → ok c (i, a) →
      step a c.shared (c.locals i) = some (sh, l) → G sh ∧ L sh l ∧ R c.shared sh)
    (hstable : ∀ sh sh' l, G sh → R sh sh' → L sh l → L sh' l)
    (hrun : Run (next step) ok c₀ c) (hG : G c₀.shared) (hL : ∀ j, L c₀.shared (c₀.locals j)) :
    G c.shared ∧ ∀ j, L c.shared (c.locals j) := by
  refine Run.assertions (L := fun _ => L) ?_ hrun hG hL
  intro c i a sh l hG hL hok hs
  obtain ⟨hG', hown, hR⟩ := hstep c i a sh l hG (hL i) hok hs
  exact ⟨hG', hown, fun j _ => hstable _ _ _ hG hR (hL j)⟩

/-- A relation on stores that every atomic step respects relates the stores at
    the two ends of a run. -/
theorem Run.shared_rel {ok : Config ι σ ℓ → ι × α → Prop} {R : σ → σ → Prop}
    (hrefl : ∀ s, R s s) (htrans : ∀ s t u, R s t → R t u → R s u)
    (hstep : ∀ a sh l sh' l', step a sh l = some (sh', l') → R sh sh')
    (hrun : Run (next step) ok c₀ c) : R c₀.shared c.shared := by
  refine hrun.rel (R := fun c c' => R c.shared c'.shared) (fun c => hrefl c.shared)
    (fun c d e => htrans c.shared d.shared e.shared) ?_
  rintro c ⟨i, a⟩ c' - hnext
  obtain ⟨sh, l, hs, rfl⟩ := next_eq_some.mp hnext
  exact hstep _ _ _ _ _ hs

/-- A process that cannot take a step stays where it is. -/
theorem Run.locals_of_stuck {ok : Config ι σ ℓ → ι × α → Prop} {l : ℓ}
    (hstuck : ∀ a sh, step a sh l = none) (hrun : Run (next step) ok c₀ c) (h : c₀.locals i = l) :
    c.locals i = l := by
  refine hrun.invariant (P := fun c => c.locals i = l) ?_ h
  rintro c ⟨j, a⟩ c' hc - hnext
  obtain ⟨sh, l', hs, rfl⟩ := next_eq_some.mp hnext
  have hne : i ≠ j := by
    rintro rfl
    rw [hc, hstuck] at hs
    cases hs
  simpa [Function.update_of_ne hne] using hc

/-! ## Check, then insert -/

section CheckThenInsert

variable {κ : Type*}

/-- `pending l` is the key that a process in local state `l` has looked up without
    a result and is about to insert. The process that takes this step is not about
    to insert a key that another one is about to insert as well. -/
def Alone (pending : ℓ → Option κ) (c : Config ι σ ℓ) (a : ι × α) : Prop :=
  pending (c.locals a.1) = none ∨ ∀ j, j ≠ a.1 → pending (c.locals j) ≠ pending (c.locals a.1)

instance [Fintype ι] [DecidableEq κ] (pending : ℓ → Option κ) (c : Config ι σ ℓ) (a : ι × α) :
    Decidable (Alone pending c a) :=
  inferInstanceAs (Decidable (_ ∨ _))

/-- A step finds that a key is not there, or gives up, or inserts what was pending. -/
def LooksThenInserts (keys : σ → List κ) (pending : ℓ → Option κ) (sh : σ) (l : ℓ) (sh' : σ)
    (l' : ℓ) : Prop :=
  (keys sh' = keys sh ∧ ∀ p, pending l' = some p → pending l = some p ∨ p ∉ keys sh) ∨
    (pending l' = none ∧ ∃ p, pending l = some p ∧ keys sh' = keys sh ++ [p])

/-- A step after which nothing is pending and the keys are as before. -/
theorem LooksThenInserts.of_idle {keys : σ → List κ} {pending : ℓ → Option κ} {sh sh' : σ}
    {l l' : ℓ} (hkeys : keys sh' = keys sh) (hidle : pending l' = none) :
    LooksThenInserts keys pending sh l sh' l' := by
  refine .inl ⟨hkeys, fun p hp => ?_⟩
  rw [hidle] at hp
  cases hp

/-- **Rule for check, then insert.** `L` is what a process knows. From its lookup on it
    also knows that its key is not there, which only the insert of that key by another
    process disturbs. -/
theorem Run.nodup_of_alone {keys : σ → List κ} {pending : ℓ → Option κ} {L : ℓ → Prop}
    (hstep : ∀ a sh l sh' l', L l → step a sh l = some (sh', l') →
      LooksThenInserts keys pending sh l sh' l' ∧ L l')
    (hrun : Run (next step) (Alone pending) c₀ c) (hL : ∀ j, L (c₀.locals j))
    (hstart : ∀ j, pending (c₀.locals j) = none) (hinit : (keys c₀.shared).Nodup) :
    (keys c.shared).Nodup := by
  have hnone : ∀ j, L (c₀.locals j) ∧
      ∀ p, pending (c₀.locals j) = some p → p ∉ keys c₀.shared := by
    refine fun j => ⟨hL j, fun p hp => ?_⟩
    rw [hstart j] at hp
    cases hp
  refine (Run.assertions (G := fun sh => (keys sh).Nodup)
    (L := fun _ sh l => L l ∧ ∀ p, pending l = some p → p ∉ keys sh) ?_ hrun hinit hnone).1
  intro c i a sh l hG hknows halone hs
  obtain ⟨hlooks, hown⟩ := hstep a c.shared (c.locals i) sh l (hknows i).1 hs
  rcases hlooks with ⟨heq, hpending⟩ | ⟨hidle, p, hp, heq⟩
  · rw [heq]
    refine ⟨hG, ⟨hown, fun p hp => ?_⟩, fun j _ => hknows j⟩
    rcases hpending p hp with hold | hnew
    · exact (hknows i).2 p hold
    · exact hnew
  · refine ⟨?_, ⟨hown, fun p' hp' => ?_⟩, fun j hj => ⟨(hknows j).1, fun p' hp' hmem => ?_⟩⟩
    · rw [heq, List.nodup_append']
      exact ⟨hG, List.nodup_singleton p, by simpa using (hknows i).2 p hp⟩
    · rw [hidle] at hp'
      cases hp'
    · -- the inserted key is not the one that `j` is about to insert
      rw [heq, List.mem_append, List.mem_singleton] at hmem
      rcases hmem with hmem | rfl
      · exact (hknows j).2 p' hp' hmem
      · rcases halone with hnone | hother
        · rw [hp] at hnone; cases hnone
        · exact absurd (hp'.trans hp.symm) (hother j hj)

end CheckThenInsert

end Interleaving
