import BillingEngine.System.Concurrent

/-!
# The quota of one month

A `Meter` is one subscription, one usage type, one calendar month and the limit
that applies. `Meter.total` is the committed sum that `get_total_by_type` reads
for it. `Meter.Steady` is the situation in which a limit can be kept at all: the
clock is in the month, the subscription is `ACTIVE` and its plan has the limit.

Results:
* `Meter.total_insert`: what one more event adds to the total.
* `Meter.bounds_of_steady`: every instant of the month has the bounds of the meter.
-/

namespace BillingEngine

open Ledger UsageRepository SubscriptionRepository

/-- One subscription, usage type and calendar month, and its limit. -/
structure Meter where
  subscriptionId : Uuid
  usageType : UsageType
  periodStart : DateTime
  periodEnd : DateTime
  limit : ℤ
  month : monthBounds periodStart = .ok (periodStart, periodEnd)

namespace Meter

variable (m : Meter)

/-- The committed sum of the month. -/
def total (db : Database) : ℤ :=
  getTotalByType db m.subscriptionId m.usageType (some m.periodStart) (some m.periodEnd)

/-- The request is metered by `m`. -/
def AppliesTo (usage : UsageRequest) : Prop :=
  usage.subscriptionId = m.subscriptionId ∧ usage.usageType = m.usageType

instance (usage : UsageRequest) : Decidable (m.AppliesTo usage) :=
  inferInstanceAs (Decidable (_ ∧ _))

/-- The limit of the loaded subscription's plan. -/
def limitOf (db : Database) (subscription : Subscription) : Option ℤ :=
  (planOf db subscription).map fun plan => UsageService.limitFor plan m.usageType

/-- The clock is in the month, the subscription is `ACTIVE` and its plan has the
    limit of the meter. -/
def Steady (db : Database) (now : DateTime) : Prop :=
  (m.periodStart ≤ now ∧ now < m.periodEnd) ∧
    ∀ subscription ∈ getById db m.subscriptionId,
      subscription.status = .active ∧ m.limitOf db subscription = some m.limit

instance (db : Database) (now : DateTime) : Decidable (m.Steady db now) :=
  inferInstanceAs (Decidable (_ ∧ _))

variable {m} {usage : UsageRequest} {now : DateTime} {id : Uuid} {db db' : Database}
  {subscription : Subscription}

theorem bounds_of_steady (h : m.Steady db now) :
    monthBounds now = .ok (m.periodStart, m.periodEnd) :=
  monthBounds_eq_of_mem m.month h.1.1 h.1.2

/-- The total depends on the events only. -/
theorem total_congr (h : db'.usageEvents = db.usageEvents) : m.total db' = m.total db := by
  simp only [total, getTotalByType, h]

/-- A stored event of the month adds its quantity if the meter applies to it. -/
theorem total_insert (hnow : m.periodStart ≤ now ∧ now < m.periodEnd)
    (h : db'.usageEvents = db.usageEvents ++ [newEvent usage id now]) :
    m.total db' = m.total db + if m.AppliesTo usage then usage.quantity else 0 := by
  have hcounts : countsTowardsType m.subscriptionId m.usageType (some m.periodStart)
      (some m.periodEnd) (newEvent usage id now) = decide (m.AppliesTo usage) := by
    have hin : inPeriod (some m.periodStart) (some m.periodEnd) now = true :=
      inPeriod_some_some.mpr hnow
    rw [Bool.eq_iff_iff]
    simp only [countsTowardsType, countsTowards, Bool.and_eq_true, decide_eq_true_eq]
    simp only [newEvent, hin, and_true, AppliesTo]
    exact and_comm
  rw [total, total, getTotalByType, getTotalByType, h, sumWhere_concat, hcounts]
  simp [newEvent]

/-- The loaded subscription keeps its limit while the plans stay as they are. -/
theorem limitOf_congr (h : db'.plans = db.plans) :
    m.limitOf db' subscription = m.limitOf db subscription := by
  simp only [limitOf, planOf, PlanRepository.getById, h]

end Meter

end BillingEngine
