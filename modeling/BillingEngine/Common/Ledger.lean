import Mathlib

/-!
# Append-only ledgers: filtered sums and half-open periods

`sumWhere p f l` is the sum of `f` over the rows of `l` that satisfy `p`, the
value of `SELECT sum(f) FROM l WHERE p` with an empty sum read as `0`.
`inPeriod start stop t` is the half-open period test `start ≤ t < stop`, in
which a missing bound does not restrict.

Results: how `sumWhere` behaves under appending a row (`sumWhere_append`), for
non-negative summands (`sumWhere_nonneg`), when no row qualifies
(`sumWhere_eq_zero`), when two ledgers have the same qualifying rows
(`sumWhere_congr_filter`), for a column that is the sum of two others
(`sumWhere_congr`, `sumWhere_and`, `sumWhere_add`), by groups of rows (`sumWhere_groups`), and over
periods that follow each other (`sumWhere_adjacent`, `sum_sumWhere_adjacent`).
-/

namespace Ledger

variable {ρ τ : Type*}

/-! ## Filtered sums -/

/-- The sum of `f` over the rows of `l` that satisfy `p`. -/
def sumWhere (p : ρ → Bool) (f : ρ → ℤ) (l : List ρ) : ℤ := ((l.filter p).map f).sum

@[simp] theorem sumWhere_nil (p : ρ → Bool) (f : ρ → ℤ) : sumWhere p f [] = 0 := rfl

theorem sumWhere_append (p : ρ → Bool) (f : ρ → ℤ) (l l' : List ρ) :
    sumWhere p f (l ++ l') = sumWhere p f l + sumWhere p f l' := by
  simp [sumWhere]

theorem sumWhere_singleton (p : ρ → Bool) (f : ρ → ℤ) (r : ρ) :
    sumWhere p f [r] = if p r then f r else 0 := by
  by_cases h : p r <;> simp [sumWhere, h]

theorem sumWhere_cons (p : ρ → Bool) (f : ρ → ℤ) (r : ρ) (l : List ρ) :
    sumWhere p f (r :: l) = (if p r then f r else 0) + sumWhere p f l := by
  rw [← List.singleton_append, sumWhere_append, sumWhere_singleton]

/-- The sum over the images of rows. -/
theorem sumWhere_map {σ : Type*} (p : σ → Bool) (f : σ → ℤ) (g : ρ → σ) (l : List ρ) :
    sumWhere p f (l.map g) = sumWhere (fun r => p (g r)) (fun r => f (g r)) l := by
  rw [sumWhere, sumWhere, List.filter_map, List.map_map]
  rfl

/-- Appending one row adds it exactly when it qualifies. -/
theorem sumWhere_concat (p : ρ → Bool) (f : ρ → ℤ) (l : List ρ) (r : ρ) :
    sumWhere p f (l ++ [r]) = sumWhere p f l + if p r then f r else 0 := by
  rw [sumWhere_append, sumWhere_singleton]

/-- Appending a row with nothing negative never lowers the sum. -/
theorem sumWhere_le_concat (p : ρ → Bool) {f : ρ → ℤ} (l : List ρ) {r : ρ} (h : 0 ≤ f r) :
    sumWhere p f l ≤ sumWhere p f (l ++ [r]) := by
  rw [sumWhere_concat]
  split_ifs <;> omega

theorem sumWhere_nonneg {p : ρ → Bool} {f : ρ → ℤ} {l : List ρ} (h : ∀ r ∈ l, p r → 0 ≤ f r) :
    0 ≤ sumWhere p f l := by
  apply List.sum_nonneg
  intro x hx
  obtain ⟨r, hr, rfl⟩ := List.mem_map.mp hx
  obtain ⟨hmem, hp⟩ := List.mem_filter.mp hr
  exact h r hmem hp

theorem sumWhere_eq_zero {p : ρ → Bool} {f : ρ → ℤ} {l : List ρ} (h : ∀ r ∈ l, p r = false) :
    sumWhere p f l = 0 := by
  have : l.filter p = [] := List.filter_eq_nil_iff.mpr fun r hr => by simp [h r hr]
  simp [sumWhere, this]

/-- Only the qualifying rows matter. -/
theorem sumWhere_congr_filter {p q : ρ → Bool} {f : ρ → ℤ} {l l' : List ρ}
    (h : l.filter p = l'.filter q) : sumWhere p f l = sumWhere q f l' := by
  rw [sumWhere, sumWhere, h]

theorem sumWhere_congr {p : ρ → Bool} {f g : ρ → ℤ} {l : List ρ}
    (h : ∀ r ∈ l, p r → f r = g r) : sumWhere p f l = sumWhere p g l := by
  refine congrArg List.sum (List.map_congr_left fun r hr => ?_)
  obtain ⟨hmem, hp⟩ := List.mem_filter.mp hr
  exact h r hmem hp

/-- A second condition on the rows can be read as one on the summands. -/
theorem sumWhere_and {p q : ρ → Bool} (f : ρ → ℤ) (l : List ρ) :
    sumWhere (fun r => q r && p r) f l = sumWhere p (fun r => if q r then f r else 0) l := by
  induction l with
  | nil => rfl
  | cons r l ih =>
    rw [sumWhere_cons, sumWhere_cons, ih]
    by_cases hq : q r = true <;> simp [hq]

/-- The sum of a row-wise sum of two columns. -/
theorem sumWhere_add (p : ρ → Bool) (f g : ρ → ℤ) (l : List ρ) :
    sumWhere p (fun r => f r + g r) l = sumWhere p f l + sumWhere p g l :=
  List.sum_map_add

/-- `SELECT sum(f) … GROUP BY group`: the sums of the groups add up to the total. -/
theorem sumWhere_groups {κ : Type*} [DecidableEq κ] (group : ρ → κ) {ks : Finset κ} {l : List ρ}
    (h : ∀ r ∈ l, group r ∈ ks) (p : ρ → Bool) (f : ρ → ℤ) :
    sumWhere p f l = ∑ k ∈ ks, sumWhere (fun r => decide (group r = k) && p r) f l := by
  induction l with
  | nil => simp
  | cons r l ih =>
    obtain ⟨hr, hl⟩ := List.forall_mem_cons.mp h
    have hone : (if p r then f r else 0) =
        ∑ k ∈ ks, if (decide (group r = k) && p r) = true then f r else 0 := by
      by_cases hp : p r = true <;> simp [hp, hr]
    rw [sumWhere_cons, ih hl, hone, ← Finset.sum_add_distrib]
    exact Finset.sum_congr rfl fun k _ => by rw [sumWhere_cons]

/-! ## Half-open periods -/

variable [LinearOrder τ]

/-- `start ≤ t < stop`; a bound that is `none` does not restrict. -/
def inPeriod (start stop : Option τ) (t : τ) : Bool :=
  start.all (fun s => decide (s ≤ t)) && stop.all (fun e => decide (t < e))

@[simp] theorem inPeriod_some_some {s e t : τ} :
    inPeriod (some s) (some e) t = true ↔ s ≤ t ∧ t < e := by
  simp [inPeriod]

/-- The test on a nullable column: a comparison with a null is not true. -/
def inPeriodNullable (start stop : Option τ) (t : Option τ) : Bool :=
  start.all (fun s => t.any fun t => decide (s ≤ t)) &&
    stop.all (fun e => t.any fun t => decide (t < e))

@[simp] theorem inPeriodNullable_some (start stop : Option τ) (t : τ) :
    inPeriodNullable start stop (some t) = inPeriod start stop t := rfl

section Adjacent

variable (q : ρ → Bool) (time : ρ → τ) (f : ρ → ℤ) (l : List ρ)

/-- Two periods with a common bound add up to the period of both. -/
theorem sumWhere_adjacent {a b c : τ} (hab : a ≤ b) (hbc : b ≤ c) :
    sumWhere (fun r => q r && inPeriod (some a) (some b) (time r)) f l +
        sumWhere (fun r => q r && inPeriod (some b) (some c) (time r)) f l =
      sumWhere (fun r => q r && inPeriod (some a) (some c) (time r)) f l := by
  induction l with
  | nil => rfl
  | cons r l ih =>
    have hone : (if (q r && inPeriod (some a) (some b) (time r)) = true then f r else 0) +
        (if (q r && inPeriod (some b) (some c) (time r)) = true then f r else 0) =
          if (q r && inPeriod (some a) (some c) (time r)) = true then f r else 0 := by
      by_cases hb : time r < b
      · simp [hb, hb.trans_le hbc, hb.not_ge]
      · simp [hb, not_lt.mp hb, hab.trans (not_lt.mp hb)]
    simp only [sumWhere_cons, ← hone]
    omega

/-- A run of periods, each of which starts where the one before ends. -/
theorem sum_sumWhere_adjacent {start stop : ℕ → τ} {n : ℕ} (hle : ∀ i ≤ n, start i ≤ stop i)
    (hnext : ∀ i < n, start (i + 1) = stop i) : start 0 ≤ stop n ∧
      ∑ i ∈ Finset.range (n + 1),
          sumWhere (fun r => q r && inPeriod (some (start i)) (some (stop i)) (time r)) f l =
        sumWhere (fun r => q r && inPeriod (some (start 0)) (some (stop n)) (time r)) f l := by
  induction n with
  | zero => exact ⟨hle 0 le_rfl, by simp⟩
  | succ n ih =>
    obtain ⟨hfirst, hsum⟩ := ih (fun i hi => hle i (by omega)) fun i hi => hnext i (by omega)
    have hlast : stop n ≤ stop (n + 1) := by
      rw [← hnext n (by omega)]
      exact hle (n + 1) le_rfl
    refine ⟨hfirst.trans hlast, ?_⟩
    rw [Finset.sum_range_succ, hsum, hnext n (by omega)]
    exact sumWhere_adjacent q time f l hfirst hlast

end Adjacent

end Ledger
