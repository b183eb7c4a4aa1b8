import BillingEngine.Model.Repositories

/-!
# Calendar months tile the ledger

The end of a month is the first instant of the next one, so the half-open periods
of `month_bounds` cover every datetime once, and a filtered sum over consecutive
months is the sum over the period of all of them.

Results:
* `monthBounds_next`: a month starts where the one before ends.
* `months_tile_ledger`: the months, and the totals over them.
-/

namespace BillingEngine

open Ledger UsageRepository

namespace Tiling

/-! ## Consecutive months -/

variable {r r' s e s' e' : DateTime}

/-- The end of a month lies in the next one. -/
theorem monthNumber_stop (h : monthBounds r = .ok (s, e)) :
    e.monthNumber = r.monthNumber + 1 := by
  obtain ⟨-, he⟩ := monthBounds_ticks h
  have hm := r.month_range
  have hem := e.month_range
  have hed := e.day_range
  have hed31 := daysInMonth_le e.year e.month
  have het := e.time_range
  simp only [DateTime.ticks] at he
  unfold DateTime.monthNumber
  split_ifs at he <;> omega

/-- **The next month starts where this one ends**, also in the next year. -/
theorem monthBounds_next (h : monthBounds r = .ok (s, e)) (h' : monthBounds r' = .ok (s', e'))
    (hnext : r'.monthNumber = r.monthNumber + 1) : s' = e := by
  obtain ⟨-, he⟩ := monthBounds_ticks h
  obtain ⟨hs', -⟩ := monthBounds_ticks h'
  have hm := r.month_range
  have hm' := r'.month_range
  unfold DateTime.monthNumber at hnext
  refine DateTime.ticks_injective ?_
  rw [hs', he]
  split_ifs <;> omega

/-- Two intervals are the same, or no datetime is in both. -/
theorem monthBounds_same_or_disjoint (h : monthBounds r = .ok (s, e))
    (h' : monthBounds r' = .ok (s', e')) :
    (s' = s ∧ e' = e) ∨ ∀ t, ¬ ((s ≤ t ∧ t < e) ∧ s' ≤ t ∧ t < e') := by
  rcases le_total r r' with hle | hle
  · rcases monthBounds_disjoint h h' hle with ⟨hs, he⟩ | hbefore
    · exact .inl ⟨hs.symm, he.symm⟩
    · exact .inr fun t ht => absurd (hbefore.trans ht.2.1) ht.1.2.not_ge
  · rcases monthBounds_disjoint h' h hle with hsame | hafter
    · exact .inl hsame
    · exact .inr fun t ht => absurd (hafter.trans ht.1.1) ht.2.2.not_ge

/-! ## The ledger -/

/-- The totals of consecutive months. -/
theorem sum_getTotalUsage (db : Database) (subscriptionId : Uuid) {n : ℕ}
    {ref start stop : ℕ → DateTime} (hbounds : ∀ i ≤ n, monthBounds (ref i) = .ok (start i, stop i))
    (hnext : ∀ i < n, (ref (i + 1)).monthNumber = (ref i).monthNumber + 1) :
    ∑ i ∈ Finset.range (n + 1), getTotalUsage db subscriptionId (some (start i)) (some (stop i)) =
      getTotalUsage db subscriptionId (some (start 0)) (some (stop n)) := by
  have hle : ∀ i ≤ n, start i ≤ stop i := fun i hi => by
    obtain ⟨hstart, hstop⟩ := monthBounds_mem_self (hbounds i hi)
    exact hstart.trans hstop.le
  have hmeet : ∀ i < n, start (i + 1) = stop i := fun i hi =>
    monthBounds_next (hbounds i hi.le) (hbounds (i + 1) hi) (hnext i hi)
  exact (sum_sumWhere_adjacent (fun e => decide (e.subscriptionId = subscriptionId))
    UsageEvent.createdAt UsageEvent.quantity db.usageEvents hle hmeet).2

/-- **Calendar months tile the ledger.** Each datetime before December 9999 is in the
    interval of its month, which is that of every other datetime of the month and has
    nothing in common with the others; it ends where the next month starts. So the
    totals of consecutive months add up to the total of the period of all of them,
    and the totals by type to the total. -/
theorem months_tile_ledger :
    (∀ r : DateTime, ¬ (r.year = 9999 ∧ r.month = 12) →
      ∃ s e, monthBounds r = .ok (s, e) ∧ (s ≤ r ∧ r < e) ∧
        e.monthNumber = r.monthNumber + 1 ∧
        ∀ r' s' e', monthBounds r' = .ok (s', e') →
          ((s' = s ∧ e' = e) ∨ ∀ t, ¬ ((s ≤ t ∧ t < e) ∧ s' ≤ t ∧ t < e')) ∧
          (r'.monthNumber = r.monthNumber + 1 → s' = e)) ∧
    (∀ (db : Database) (subscriptionId : Uuid) (n : ℕ) (ref start stop : ℕ → DateTime),
      (∀ i ≤ n, monthBounds (ref i) = .ok (start i, stop i)) →
      (∀ i < n, (ref (i + 1)).monthNumber = (ref i).monthNumber + 1) →
      ∑ i ∈ Finset.range (n + 1),
          getTotalUsage db subscriptionId (some (start i)) (some (stop i)) =
        getTotalUsage db subscriptionId (some (start 0)) (some (stop n))) ∧
    ∀ (db : Database) (subscriptionId : Uuid) (start stop : Option DateTime),
      getTotalUsage db subscriptionId start stop =
        getTotalByType db subscriptionId .apiCall start stop +
          getTotalByType db subscriptionId .tokens start stop := by
  refine ⟨fun r hr => ?_, fun db subscriptionId n ref start stop => ?_, getTotalUsage_eq_types⟩
  · obtain ⟨⟨s, e⟩, h⟩ := (monthBounds_isOk_iff r).mpr hr
    exact ⟨s, e, h, monthBounds_mem_self h, monthNumber_stop h, fun r' s' e' h' =>
      ⟨monthBounds_same_or_disjoint h h', monthBounds_next h h'⟩⟩
  · exact sum_getTotalUsage db subscriptionId

end Tiling

end BillingEngine
