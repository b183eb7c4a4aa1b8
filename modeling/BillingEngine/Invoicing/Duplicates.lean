import BillingEngine.Common.Reservations
import BillingEngine.Invoicing.OnePerPeriod

/-!
# How many invoices one period can get

A call of `calculate_bill` that has found no invoice of its period inserts one, also if
others have done so in the meantime. A call that looks later finds one and inserts
none. So a period gets as many invoices as there were calls between lookup and insert
at one time, and never more, however many calls there are.

Results:
* `invoices_le_of_crowd`: with fewer than `k` others between lookup and insert for a
  period at any time, the period has at most `k` invoices, or as many as at the start if
  that is more.
-/

namespace BillingEngine

open Runs Interleaving

namespace Duplicates

open OnePerPeriod (aboutToBill)

variable {ι : Type*} [DecidableEq ι] {driver : Driver} {c₀ c : System ι} {k : ℕ}

/-- **At most as many invoices as calls between lookup and insert**, and no more than
    there were if the period has one already. -/
theorem invoices_le_of_crowd (period : Uuid × Option DateTime × Option DateTime) (hk : 0 < k)
    (hstart : ∀ i, (c₀.locals i).IsStart)
    (hrun : Run (System.next driver) (Crowd (holds aboutToBill period) k) c₀ c) :
    (c.shared.invoices.map Invoice.period).count period ≤
      max ((c₀.shared.invoices.map Invoice.period).count period) k :=
  Interleaving.Run.count_le_slack period hk
    (fun _ _ _ _ _ hs h => OnePerPeriod.looksThenInserts_step hs h) hrun
    (fun i => (OnePerPeriod.loadedOwn_of_isStart (hstart i)).1)
    (fun i => (OnePerPeriod.loadedOwn_of_isStart (hstart i)).2)

/-- Two calls look before either of them inserts, and both do. -/
theorem invoices_le_of_crowd_two : ∃ c, Run (System.next .stringsOnly)
      (Crowd (holds aboutToBill (⟨3⟩, some Sample.firstOfJuly, some Sample.firstOfAugust)) 2)
      OnePerPeriod.race c ∧
    c.shared.invoices.length = 2 ∧ (c.shared.invoices.map Invoice.period).count
      (⟨3⟩, some Sample.firstOfJuly, some Sample.firstOfAugust) ≤ max 0 2 := by
  have hrun := Run.of_execGuarded_isSome (show (execGuarded (System.next .stringsOnly)
    (Crowd (holds aboutToBill (⟨3⟩, some Sample.firstOfJuly, some Sample.firstOfAugust)) 2)
    OnePerPeriod.race
    (Sample.schedule [false, false, false, false, true, true, true, true, false, true])).isSome
      by decide)
  have hstart : ∀ i, (OnePerPeriod.race.locals i).IsStart := by intro i; cases i <;> rfl
  exact ⟨_, hrun, by decide, invoices_le_of_crowd _ (by decide) hstart hrun⟩

end Duplicates

end BillingEngine
